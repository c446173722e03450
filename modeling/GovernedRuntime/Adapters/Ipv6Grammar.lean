/-
The grammar of IPv6 texts, and that the syntax check (`src/adapters/ip-validation.ts`)
accepts exactly its texts.
-/
import GovernedRuntime.Adapters.Ipv6Spelling
import GovernedRuntime.Library.Texts

namespace GovernedRuntime.Adapters

open GovernedRuntime.Library

/-! ### The grammar -/

/-- A hexadecimal digit, in either case. -/
def IsHexDigit (c : Char) : Prop :=
  ('0' ≤ c ∧ c ≤ '9') ∨ ('a' ≤ c ∧ c ≤ 'f') ∨ ('A' ≤ c ∧ c ≤ 'F')

/-- One to four hexadecimal digits. -/
structure IsHexGroup (group : List Char) : Prop where
  nonempty : 1 ≤ group.length
  short : group.length ≤ 4
  digits : ∀ c ∈ group, IsHexDigit c

/-- The value of decimal digits. -/
def decimalOf (digits : List Char) : Nat :=
  digits.foldl (fun value c => value * 10 + (c.toNat - '0'.toNat)) 0

/-- One to three decimal digits of a value up to 255. -/
structure IsOctet (part : List Char) : Prop where
  nonempty : 1 ≤ part.length
  short : part.length ≤ 3
  digits : ∀ c ∈ part, '0' ≤ c ∧ c ≤ '9'
  bounded : decimalOf part ≤ 255

/-- Four decimal numbers with dots between them. -/
def IsDottedQuad (text : List Char) : Prop :=
  ∃ a b c d, IsOctet a ∧ IsOctet b ∧ IsOctet c ∧ IsOctet d ∧
    text = a ++ '.' :: (b ++ '.' :: (c ++ '.' :: d))

/-- Groups between colons and how many groups of the address they stand for: a dotted quad
may come last, for two. -/
inductive AddressGroups : List (List Char) → Nat → Prop
  | nil : AddressGroups [] 0
  | hex {group groups count} (hgroup : IsHexGroup group) (hrest : AddressGroups groups count) :
      AddressGroups (group :: groups) (count + 1)
  | quad {group} (hquad : IsDottedQuad group) : AddressGroups [group] 2

/-- Eight groups, or fewer around one double colon. -/
inductive IsIPv6Text : List Char → Prop
  | full {groups} (hgroups : AddressGroups groups 8) : IsIPv6Text (joined groups)
  | compressed {left right count} (hleft : ∀ group ∈ left, IsHexGroup group)
      (hright : AddressGroups right count) (hlength : left.length + count ≤ 7) :
      IsIPv6Text (joined left ++ ':' :: ':' :: joined right)

/-! ### Digits -/

theorem char_le_iff {c d : Char} : c ≤ d ↔ c.toNat ≤ d.toNat := by
  rw [Char.le_def, UInt32.le_iff_toNat_le]
  rfl

theorem toNat_toLower (c : Char) :
    c.toLower.toNat = if 65 ≤ c.toNat ∧ c.toNat ≤ 90 then c.toNat + 32 else c.toNat := by
  have hupper : c.val ≥ 'A'.val ∧ c.val ≤ 'Z'.val ↔ 65 ≤ c.toNat ∧ c.toNat ≤ 90 := by
    simp [UInt32.le_iff_toNat_le]
  unfold Char.toLower
  split
  · next h =>
      have hbound := hupper.1 h
      have hval : c.val.toNat = c.toNat := rfl
      rw [if_pos hbound]
      change (c.val.toNat + 32) % 2 ^ 32 = c.toNat + 32
      omega
  · next h => rw [if_neg fun hbound => h (hupper.2 hbound)]

theorem isDigit_iff {c : Char} : c.isDigit = true ↔ '0' ≤ c ∧ c ≤ '9' := by
  rw [char_le_iff, char_le_iff]
  simp only [Char.isDigit, Bool.and_eq_true, decide_eq_true_eq, ge_iff_le,
    UInt32.le_iff_toNat_le]
  rfl

theorem toLower_of_digit {c : Char} (hdigit : '0' ≤ c ∧ c ≤ '9') : c.toLower = c := by
  rw [char_le_iff, char_le_iff] at hdigit
  change 48 ≤ c.toNat ∧ c.toNat ≤ 57 at hdigit
  apply Char.toNat_inj.1
  rw [toNat_toLower, if_neg (by omega)]

/-- Lower-casing makes no digit of another character. -/
theorem digit_toLower {c : Char} : ('0' ≤ c.toLower ∧ c.toLower ≤ '9') ↔ '0' ≤ c ∧ c ≤ '9' := by
  simp only [char_le_iff, toNat_toLower]
  change (48 ≤ _ ∧ _ ≤ 57) ↔ 48 ≤ _ ∧ _ ≤ 57
  split <;> omega

theorem hexDigit_isSome {c : Char} :
    (hexDigit c).isSome = true ↔ ('0' ≤ c ∧ c ≤ '9') ∨ ('a' ≤ c ∧ c ≤ 'f') := by
  rw [hexDigit]
  by_cases hdigit : c.isDigit = true
  · simp [hdigit, isDigit_iff.1 hdigit]
  · have hnot := mt isDigit_iff.2 hdigit
    by_cases hletter : 'a' ≤ c ∧ c ≤ 'f' <;> simp [hdigit, hnot, hletter]

/-- A lower-cased character is a digit of a hextet when the character is one. -/
theorem hexDigit_toLower {c : Char} : (hexDigit c.toLower).isSome = true ↔ IsHexDigit c := by
  rw [hexDigit_isSome, IsHexDigit]
  simp only [char_le_iff, toNat_toLower]
  change ((48 ≤ _ ∧ _ ≤ 57) ∨ (97 ≤ _ ∧ _ ≤ 102)) ↔
    (48 ≤ _ ∧ _ ≤ 57) ∨ (97 ≤ _ ∧ _ ≤ 102) ∨ (65 ≤ _ ∧ _ ≤ 70)
  split <;> omega

theorem toLower_eq_separator {c d : Char} (hd : d = ':' ∨ d = '.') : c.toLower = d ↔ c = d := by
  rw [← Char.toNat_inj, ← Char.toNat_inj, toNat_toLower]
  have hvalue : d.toNat = 58 ∨ d.toNat = 46 := by
    rcases hd with rfl | rfl
    · exact .inl rfl
    · exact .inr rfl
  split <;> omega

/-! ### Groups -/

theorem foldlM_hexDigit_isSome {cs : List Char} {acc : Nat}
    (hdigits : ∀ c ∈ cs, (hexDigit c).isSome = true) :
    (cs.foldlM (fun parsed c => (hexDigit c).map (parsed * 16 + ·)) acc).isSome = true := by
  induction cs generalizing acc with
  | nil => rfl
  | cons c cs ih =>
      obtain ⟨d, hd⟩ := Option.isSome_iff_exists.1 (hdigits c List.mem_cons_self)
      rw [List.foldlM_cons, hd]
      exact ih fun c hmem => hdigits c (List.mem_cons_of_mem _ hmem)

/-- The code reads the lower-cased groups of the grammar. -/
theorem parseHextet_lowered {group : List Char} :
    (parseHextet (lowered group)).isSome = true ↔ IsHexGroup group := by
  rw [parseHextet, lowered, List.length_map]
  constructor
  · intro hsome
    split_ifs at hsome with hlength
    · simp only [Bool.and_eq_true, decide_eq_true_eq] at hlength
      obtain ⟨value, hvalue⟩ := Option.isSome_iff_exists.1 hsome
      refine ⟨hlength.1, hlength.2, fun c hmem => hexDigit_toLower.1 ?_⟩
      obtain ⟨d, hd⟩ := (foldlM_hexDigit hvalue).1 _ (List.mem_map_of_mem hmem)
      rw [hd]
      rfl
    · cases hsome
  · intro hgroup
    rw [if_pos (by simp [hgroup.nonempty, hgroup.short])]
    apply foldlM_hexDigit_isSome
    intro lower hlower
    obtain ⟨c, hmem, rfl⟩ := List.mem_map.1 hlower
    exact hexDigit_toLower.2 (hgroup.digits c hmem)

theorem parseOctet_eq (part : List Char) :
    parseOctet part = if 1 ≤ part.length && part.length ≤ 3 && part.all (·.isDigit) then
      if decimalOf part ≤ 255 then some (decimalOf part) else none
    else none := rfl

theorem parseOctet_isSome {part : List Char} : (parseOctet part).isSome = true ↔ IsOctet part := by
  rw [parseOctet_eq]
  constructor
  · intro hsome
    split_ifs at hsome with hdigits hbound
    · simp only [Bool.and_eq_true, decide_eq_true_eq, List.all_eq_true] at hdigits
      exact ⟨hdigits.1.1, hdigits.1.2, fun c hmem => isDigit_iff.1 (hdigits.2 c hmem), hbound⟩
    · cases hsome
    · cases hsome
  · intro hpart
    have hall : part.all (·.isDigit) = true :=
      List.all_eq_true.2 fun c hmem => isDigit_iff.2 (hpart.digits c hmem)
    rw [if_pos (by simp [hpart.nonempty, hpart.short, hall]), if_pos hpart.bounded]
    rfl

theorem IsOctet.noDot {part : List Char} (hpart : IsOctet part) : '.' ∉ part := by
  intro hmem
  have hdigit := hpart.digits '.' hmem
  exact absurd hdigit (by decide)

theorem foldlM_octets_isSome {parts : List (List Char)} {acc : BitVec 32} :
    (parts.foldlM (fun (result : BitVec 32) part =>
      (parseOctet part).map fun n => (result <<< 8) ||| BitVec.ofNat 32 n) acc).isSome = true ↔
      ∀ part ∈ parts, IsOctet part := by
  induction parts generalizing acc with
  | nil => simp
  | cons part parts ih =>
      rw [List.foldlM_cons, List.forall_mem_cons, ← parseOctet_isSome]
      cases parseOctet part with
      | none => simp
      | some n => simpa using ih

/-- The code reads exactly the dotted quads. -/
theorem parseIPv4_isSome {text : List Char} :
    (parseIPv4 text).isSome = true ↔ IsDottedQuad text := by
  rw [parseIPv4]
  constructor
  · intro hsome
    split_ifs at hsome with hlength
    · cases hsome
    · rw [bne_iff_ne, not_not] at hlength
      have hjoined : ['.'].intercalate (text.splitOn '.') = text := List.intercalate_splitOn '.'
      have hparts := foldlM_octets_isSome.1 hsome
      obtain ⟨a, b, c, d, hsplit⟩ := List.length_eq_four.1 hlength
      rw [hsplit] at hjoined hparts
      refine ⟨a, b, c, d, hparts a (by simp), hparts b (by simp), hparts c (by simp),
        hparts d (by simp), hjoined.symm.trans ?_⟩
      simp [List.intercalate_cons_cons]
  · rintro ⟨a, b, c, d, ha, hb, hc, hd, rfl⟩
    have hjoined : a ++ '.' :: (b ++ '.' :: (c ++ '.' :: d)) = ['.'].intercalate [a, b, c, d] := by
      simp [List.intercalate_cons_cons]
    have hsplit : (a ++ '.' :: (b ++ '.' :: (c ++ '.' :: d))).splitOn '.' = [a, b, c, d] := by
      rw [hjoined]
      refine List.splitOn_intercalate '.' ?_ (List.cons_ne_nil _ _)
      simp [ha.noDot, hb.noDot, hc.noDot, hd.noDot]
    rw [hsplit, if_neg (by simp)]
    apply foldlM_octets_isSome.2
    simp [ha, hb, hc, hd]

/-- Dotted quads have no letters. -/
theorem IsDottedQuad.lowered_iff {text : List Char} :
    IsDottedQuad (lowered text) ↔ IsDottedQuad text := by
  have hkept : ∀ text, IsDottedQuad text → ∀ c ∈ text, ('0' ≤ c ∧ c ≤ '9') ∨ c = '.' := by
    rintro text ⟨a, b, c, d, ha, hb, hc, hd, rfl⟩ x hmem
    simp only [List.mem_append, List.mem_cons] at hmem
    rcases hmem with h | rfl | h | rfl | h | rfl | h
    · exact .inl (ha.digits x h)
    · exact .inr rfl
    · exact .inl (hb.digits x h)
    · exact .inr rfl
    · exact .inl (hc.digits x h)
    · exact .inr rfl
    · exact .inl (hd.digits x h)
  have hsame : (∀ c ∈ text, ('0' ≤ c ∧ c ≤ '9') ∨ c = '.') → lowered text = text := by
    intro hall
    refine (List.map_congr_left fun c hmem => ?_).trans (List.map_id _)
    rcases hall c hmem with hdigit | rfl
    · exact toLower_of_digit hdigit
    · rfl
  constructor
  · intro hquad
    have hall : ∀ c ∈ text, ('0' ≤ c ∧ c ≤ '9') ∨ c = '.' := fun c hmem =>
      (hkept _ hquad _ (List.mem_map_of_mem hmem)).imp digit_toLower.1
        (toLower_eq_separator (.inr rfl)).1
    rwa [hsame hall] at hquad
  · intro hquad
    rwa [hsame (hkept text hquad)]

/-! ### Lower-cased texts -/

theorem lowered_joined (groups : List (List Char)) :
    lowered (joined groups) = joined (groups.map lowered) := by
  induction groups with
  | nil => rfl
  | cons group groups ih =>
      by_cases hne : groups = []
      · rw [hne, joined_singleton, List.map_singleton, joined_singleton]
      · rw [joined_cons hne, List.map_cons, joined_cons (by simpa using hne), ← ih, lowered,
          List.map_append]
        rfl

/-- A text that lower-cases to groups between colons has such groups itself. -/
theorem joined_of_lowered {groups : List (List Char)} {text : List Char}
    (htext : lowered text = joined groups) :
    ∃ originals, text = joined originals ∧ groups = originals.map lowered := by
  induction groups generalizing text with
  | nil => exact ⟨[], List.map_eq_nil_iff.1 htext, rfl⟩
  | cons group groups ih =>
      by_cases hne : groups = []
      · rw [hne, joined_singleton] at htext
        exact ⟨[text], (joined_singleton text).symm, by rw [hne, List.map_singleton, htext]⟩
      · rw [joined_cons hne] at htext
        obtain ⟨first, rest, rfl, hfirst, hrest⟩ := List.map_eq_append_iff.1 htext
        obtain ⟨colon, rest, rfl, hcolon, hrest⟩ := List.map_eq_cons_iff.1 hrest
        obtain ⟨originals, rfl, rfl⟩ := ih hrest
        rw [(toLower_eq_separator (.inl rfl)).1 hcolon]
        exact ⟨first :: originals, (joined_cons (by simpa using hne)).symm,
          by rw [List.map_cons, ← hfirst, lowered]⟩

/-! ### Accepted texts are addresses -/

theorem Groups.addressGroups {groups : List (List Char)} {values : List Nat}
    (hvalues : Groups (groups.map lowered) values) : AddressGroups groups values.length := by
  induction groups generalizing values with
  | nil =>
      cases hvalues
      exact .nil
  | cons group groups ih =>
      generalize hread : (group :: groups).map lowered = read at hvalues
      cases hvalues with
      | nil => cases hread
      | hextet hvalue hrest =>
          obtain ⟨rfl, rfl⟩ := List.cons.inj hread
          exact .hex (parseHextet_lowered.1 (by rw [hvalue]; rfl)) (ih hrest)
      | quad hip =>
          obtain ⟨rfl, hnil⟩ := List.cons.inj hread
          rw [List.map_eq_nil_iff.1 hnil]
          exact .quad (IsDottedQuad.lowered_iff.1 (parseIPv4_isSome.1 (by rw [hip]; rfl)))

theorem Hextets.hexGroups {groups : List (List Char)} {values : List Nat}
    (hvalues : Hextets (groups.map lowered) values) : ∀ group ∈ groups, IsHexGroup group := by
  induction groups generalizing values with
  | nil => exact fun _ hmem => absurd hmem List.not_mem_nil
  | cons group groups ih =>
      rw [Hextets, List.map_cons, List.forall₂_cons_left_iff] at hvalues
      obtain ⟨value, rest, hvalue, hrest, -⟩ := hvalues
      exact List.forall_mem_cons.2 ⟨parseHextet_lowered.1 (by rw [hvalue]; rfl), ih hrest⟩

theorem Denotes.isIPv6Text {text : List Char} {values : List Nat}
    (hdenotes : Denotes (lowered text) values) : IsIPv6Text text := by
  generalize hread : lowered text = read at hdenotes
  cases hdenotes with
  | full hvalues hlength =>
      obtain ⟨originals, rfl, rfl⟩ := joined_of_lowered hread
      exact .full (hlength ▸ hvalues.addressGroups)
  | compressed hleft hright hlength =>
      obtain ⟨first, rest, rfl, hfirst, hrest⟩ := List.map_eq_append_iff.1 hread
      obtain ⟨colon, rest, rfl, hcolon, hrest⟩ := List.map_eq_cons_iff.1 hrest
      obtain ⟨second, rest, rfl, hsecond, hrest⟩ := List.map_eq_cons_iff.1 hrest
      rw [(toLower_eq_separator (.inl rfl)).1 hcolon, (toLower_eq_separator (.inl rfl)).1 hsecond]
      obtain ⟨lefts, rfl, rfl⟩ := joined_of_lowered hfirst
      obtain ⟨rights, rfl, rfl⟩ := joined_of_lowered hrest
      have hhextets := parseHextets_iff.1 hleft
      refine .compressed hhextets.hexGroups hright.addressGroups ?_
      have hcount := hhextets.length_eq
      rw [List.length_map] at hcount
      omega

/-! ### Addresses are accepted -/

/-- The groups of a part without a dotted quad. -/
def AllHextets (groups : List (List Char)) : Prop :=
  ∀ group ∈ groups, (parseHextet group).isSome = true

theorem AllHextets.proper {groups : List (List Char)} (hall : AllHextets groups) :
    ∀ group ∈ groups, ProperGroup group := by
  intro group hmem
  obtain ⟨value, hvalue⟩ := Option.isSome_iff_exists.1 (hall group hmem)
  exact (parseHextet_proper hvalue).1

theorem AllHextets.withinBudget {groups : List (List Char)} {max : Nat}
    (hall : AllHextets groups) (hlength : groups.length ≤ max - 1) :
    withinCompressedBudget groups max = true := by
  rw [withinCompressedBudget, Bool.and_eq_true, decide_eq_true_eq, allSegmentsAreHextets,
    List.all_eq_true]
  exact ⟨hlength, hall⟩

theorem two_le_splitDouble {text : List Char} (hwithin : "::".toList <:+: text) :
    2 ≤ (splitDouble text).length := by
  fun_induction splitDouble text with
  | case1 => exact absurd (List.infix_nil.1 hwithin) (by decide)
  | case2 rest ih =>
      have hpos := List.length_pos_of_ne_nil (splitDouble_ne_nil rest)
      rw [List.length_cons]
      omega
  | case3 c rest hne ih =>
      rw [List.length_modifyHead]
      apply ih
      rcases List.infix_cons_iff.1 hwithin with hstart | hrest
      · obtain ⟨tail, htail⟩ := hstart
        obtain ⟨rfl, rfl⟩ := List.cons.inj htail
        exact absurd rfl (hne _ rfl)
      · exact hrest

/-- Groups alone have no double colon. -/
theorem joined_no_double {groups : List (List Char)}
    (hproper : ∀ group ∈ groups, ProperGroup group) : ¬ "::".toList <:+: joined groups := by
  intro hwithin
  have hlength := two_le_splitDouble hwithin
  rw [splitDouble_joined hproper, List.length_singleton] at hlength
  exact absurd hlength (by decide)

theorem infix_of_tails {text : List Char}
    (h : text.tails.any ("::".toList.isPrefixOf ·) = true) : "::".toList <:+: text := by
  obtain ⟨tail, htail, hstart⟩ := List.any_eq_true.1 h
  exact (List.isPrefixOf_iff_prefix.1 hstart).isInfix.trans ((List.mem_tails _ _).1 htail).isInfix

theorem joined_head_ne {groups : List (List Char)}
    (hproper : ∀ group ∈ groups, ProperGroup group) : (joined groups).head? ≠ some ':' := by
  cases groups with
  | nil => exact nofun
  | cons group groups =>
      have hgroup := hproper group List.mem_cons_self
      rw [joined_head hgroup.nonempty]
      exact fun hhead => hgroup.noColon (List.mem_of_head? hhead)

theorem joined_ne_nil {groups : List (List Char)}
    (hproper : ∀ group ∈ groups, ProperGroup group) (hne : groups ≠ []) :
    joined groups ≠ [] := by
  intro hnil
  rw [← splitHextetSegments_joined hproper, hnil] at hne
  exact hne rfl

/-- Groups of the exact number pass. -/
theorem hextetPrefixValid_full {groups : List (List Char)} {max : Nat} (hall : AllHextets groups)
    (hlength : groups.length = max) (hpos : 1 ≤ max) :
    hextetPrefixValid (joined groups) max = true := by
  have hproper := hall.proper
  have hnone := joined_no_double hproper
  have hne : groups ≠ [] := List.ne_nil_of_length_pos (by omega)
  have hsplit : (joined groups).splitOn ':' = groups :=
    List.splitOn_intercalate ':' (fun group hmem => (hproper group hmem).noColon) hne
  rw [hextetPrefixValid,
    if_neg fun h => hnone (List.isPrefixOf_iff_prefix.1 h).isInfix,
    if_neg fun h => hnone (List.isSuffixOf_iff_suffix.1 h).isInfix,
    if_neg fun h => hnone (infix_of_tails h), hsplit]
  dsimp only
  rw [if_neg (by simpa using hlength), allSegmentsAreHextets]
  exact List.all_eq_true.2 hall

/-- Fewer groups around a double colon pass. -/
theorem hextetPrefixValid_compressed {left right : List (List Char)} {max : Nat}
    (hleft : AllHextets left) (hright : AllHextets right)
    (hlength : left.length + right.length ≤ max - 1) :
    hextetPrefixValid (joined left ++ ':' :: ':' :: joined right) max = true := by
  have hbudget : ∀ {groups}, AllHextets groups → groups.length ≤ max - 1 →
      withinCompressedBudget (splitHextetSegments (joined groups)) max = true := by
    intro groups hall hcount
    rw [splitHextetSegments_joined hall.proper]
    exact hall.withinBudget hcount
  rw [hextetPrefixValid]
  dsimp only
  by_cases hl : left = []
  · -- the text starts with the double colon
    subst hl
    rw [joined_nil, List.nil_append, if_pos (by simp)]
    change (if (joined right).isEmpty = true then true
      else if ((joined right).head? == some ':') = true then false
      else withinCompressedBudget (splitHextetSegments (joined right)) max) = true
    by_cases hempty : (joined right).isEmpty = true
    · rw [if_pos hempty]
    · rw [if_neg hempty, if_neg (by simpa using joined_head_ne hright.proper)]
      exact hbudget hright (by simpa using hlength)
  · have hstart : ¬ "::".toList.isPrefixOf (joined left ++ ':' :: ':' :: joined right) = true := by
      intro hprefix
      obtain ⟨rest, hrest⟩ := List.isPrefixOf_iff_prefix.1 hprefix
      have hhead := congrArg List.head? hrest
      rw [List.head?_append_of_ne_nil _ (joined_ne_nil hleft.proper hl)] at hhead
      exact joined_head_ne hleft.proper hhead.symm
    rw [if_neg hstart]
    by_cases hr : right = []
    · -- the text ends with it
      subst hr
      have htake : (joined left ++ ':' :: ':' :: joined []).take
          ((joined left ++ ':' :: ':' :: joined []).length - 2) = joined left := by
        rw [joined_nil]
        simp
      have hend : "::".toList.isSuffixOf (joined left ++ ':' :: ':' :: joined []) = true :=
        List.isSuffixOf_iff_suffix.2 ⟨joined left, rfl⟩
      rw [if_pos hend, htake,
        if_neg (by simpa using joined_getLast_ne hleft.proper)]
      exact hbudget hleft (by simpa using hlength)
    · have hend : ¬ "::".toList.isSuffixOf (joined left ++ ':' :: ':' :: joined right) = true := by
        intro hsuffix
        obtain ⟨rest, hrest⟩ := List.isSuffixOf_iff_suffix.1 hsuffix
        have hlast := congrArg List.getLast? hrest
        rw [List.getLast?_append_of_ne_nil rest (show "::".toList ≠ [] by decide),
          List.getLast?_append_of_ne_nil _ (List.cons_ne_nil _ _),
          List.getLast?_cons_of_ne_nil (List.cons_ne_nil _ _),
          List.getLast?_cons_of_ne_nil (joined_ne_nil hright.proper hr)] at hlast
        exact joined_getLast_ne hright.proper hlast.symm
      have hmiddle : (joined left ++ ':' :: ':' :: joined right).tails.any
          ("::".toList.isPrefixOf ·) = true :=
        List.any_eq_true.2 ⟨':' :: ':' :: joined right,
          (List.mem_tails _ _).2 ⟨joined left, rfl⟩, by simp⟩
      rw [if_neg hend, if_pos hmiddle, splitDouble_halves hleft.proper,
        splitDouble_joined hright.proper]
      dsimp only
      rw [splitHextetSegments_joined hleft.proper, splitHextetSegments_joined hright.proper]
      refine AllHextets.withinBudget ?_ (by simpa using hlength)
      exact fun group hmem => (List.mem_append.1 hmem).elim (hleft group) (hright group)

/-- Groups of an address: hextets, or hextets and a dotted quad. -/
theorem AddressGroups.cases_quad {groups : List (List Char)} {count : Nat}
    (hgroups : AddressGroups groups count) :
    (∀ group ∈ groups, IsHexGroup group) ∧ groups.length = count ∨
      ∃ init quad, groups = init ++ [quad] ∧ (∀ group ∈ init, IsHexGroup group) ∧
        IsDottedQuad quad ∧ init.length + 2 = count := by
  induction hgroups with
  | nil => exact .inl ⟨fun _ hmem => absurd hmem List.not_mem_nil, rfl⟩
  | @hex group groups count hgroup _ ih =>
      rcases ih with ⟨hall, hlength⟩ | ⟨init, quad, rfl, hall, hquad, hlength⟩
      · exact .inl ⟨List.forall_mem_cons.2 ⟨hgroup, hall⟩, congrArg (· + 1) hlength⟩
      · refine .inr ⟨group :: init, quad, rfl, List.forall_mem_cons.2 ⟨hgroup, hall⟩, hquad, ?_⟩
        rw [List.length_cons]
        omega
  | @quad group hquad =>
      exact .inr ⟨[], group, rfl, fun _ hmem => absurd hmem List.not_mem_nil, hquad, rfl⟩

theorem allHextets_lowered {groups : List (List Char)}
    (hall : ∀ group ∈ groups, IsHexGroup group) : AllHextets (groups.map lowered) := by
  intro group hmem
  obtain ⟨original, horiginal, rfl⟩ := List.mem_map.1 hmem
  exact parseHextet_lowered.2 (hall original horiginal)

theorem splitLastColon_append {before tail : List Char} (htail : ':' ∉ tail) :
    splitLastColon (before ++ ':' :: tail) = (before, tail) := by
  have hkept : ∀ c ∈ tail.reverse, (c != ':') = true := by
    intro c hmem
    rw [bne_iff_ne]
    rintro rfl
    exact htail (List.mem_reverse.1 hmem)
  have hreverse : (before ++ ':' :: tail).reverse = tail.reverse ++ ':' :: before.reverse := by
    simp
  rw [splitLastColon, hreverse, List.dropWhile_append_of_pos hkept,
    List.takeWhile_append_of_pos hkept]
  simp

/-- The check of a lower-cased text that has a colon. -/
def checksAddress (lo : List Char) : Bool :=
  if (splitLastColon lo).2.contains '.' && (parseIPv4 (splitLastColon lo).2).isSome then
    hextetPrefixValid
      (if (splitLastColon lo).1.getLast? == some ':' then (splitLastColon lo).1 ++ [':']
      else (splitLastColon lo).1) 6
  else hextetPrefixValid lo 8

theorem isIPv6Address_eq {addr : String} (hlength : 2 ≤ addr.length)
    (hcolon : ':' ∈ lowered addr.toList) :
    isIPv6Address addr = checksAddress (lowered addr.toList) := by
  rw [isIPv6Address, if_neg (by omega)]
  dsimp only
  rw [if_neg]
  · rfl
  · simpa [lowerCase, lowered] using hcolon

theorem checksAddress_quad {before tail : List Char} (hquad : IsDottedQuad tail)
    (hvalid : hextetPrefixValid
      (if before.getLast? == some ':' then before ++ [':'] else before) 6 = true) :
    checksAddress (before ++ ':' :: tail) = true := by
  obtain ⟨ip, hip⟩ := Option.isSome_iff_exists.1 (parseIPv4_isSome.2 hquad)
  obtain ⟨hproper, hdot⟩ := parseIPv4_proper hip
  rw [checksAddress, splitLastColon_append hproper.noColon]
  dsimp only
  rw [if_pos (by simp [hdot, hip])]
  exact hvalid

theorem checksAddress_hex {text : List Char} (hdot : '.' ∉ text) (hcolon : ':' ∈ text)
    (hvalid : hextetPrefixValid text 8 = true) : checksAddress text = true := by
  rw [checksAddress, if_neg]
  · exact hvalid
  · obtain ⟨htext, -⟩ := splitLastColon_eq hcolon
    have htail : '.' ∉ (splitLastColon text).2 := fun hmem => hdot (by
      rw [htext]
      exact List.mem_append_right _ (List.mem_cons_of_mem _ hmem))
    simp [htail]

theorem AllHextets.noDot {groups : List (List Char)} (hall : AllHextets groups) :
    '.' ∉ joined groups := by
  intro hmem
  rcases mem_of_mem_intercalate hmem with heq | ⟨group, hgroup, hmem⟩
  · exact absurd heq (by decide)
  · obtain ⟨value, hvalue⟩ := Option.isSome_iff_exists.1 (hall group hgroup)
    exact (parseHextet_proper hvalue).2 hmem

theorem colon_mem_joined {groups : List (List Char)} (hlength : 2 ≤ groups.length) :
    ':' ∈ joined groups := by
  obtain ⟨group, rest, rfl⟩ := List.exists_cons_of_length_pos (by omega : 0 < groups.length)
  have hrest : rest ≠ [] := List.ne_nil_of_length_pos (by
    rw [List.length_cons] at hlength
    omega)
  rw [joined_cons hrest]
  exact List.mem_append_right _ List.mem_cons_self

theorem AddressGroups.proper {groups : List (List Char)} {count : Nat}
    (hgroups : AddressGroups groups count) : ∀ group ∈ groups, group ≠ [] := by
  induction hgroups with
  | nil => exact fun _ hmem => absurd hmem List.not_mem_nil
  | hex hgroup _ ih =>
      exact List.forall_mem_cons.2 ⟨List.ne_nil_of_length_pos hgroup.nonempty, ih⟩
  | quad hquad =>
      obtain ⟨a, b, c, d, -, -, -, -, rfl⟩ := hquad
      simp

theorem IsIPv6Text.two_le {text : List Char} (htext : IsIPv6Text text) : 2 ≤ text.length := by
  cases htext with
  | compressed =>
      rw [List.length_append, List.length_cons, List.length_cons]
      omega
  | @full groups hgroups =>
      have hmany : 2 ≤ groups.length := by
        rcases hgroups.cases_quad with ⟨-, hlength⟩ | ⟨init, quad, rfl, -, -, hlength⟩
        · omega
        · rw [List.length_append]
          omega
      obtain ⟨group, rest, rfl⟩ := List.exists_cons_of_length_pos (by omega : 0 < groups.length)
      have hpos := List.length_pos_of_ne_nil (hgroups.proper group List.mem_cons_self)
      have hrest : rest ≠ [] := List.ne_nil_of_length_pos (by
        rw [List.length_cons] at hmany
        omega)
      rw [joined_cons hrest, List.length_append, List.length_cons]
      omega

/-- Every lower-cased text of the grammar passes. -/
theorem IsIPv6Text.checked {text : List Char} (htext : IsIPv6Text text) :
    checksAddress (lowered text) = true ∧ ':' ∈ lowered text := by
  cases htext with
  | @full groups hgroups =>
      rw [lowered_joined]
      rcases hgroups.cases_quad with ⟨hall, hlength⟩ | ⟨init, quad, rfl, hall, hquad, hlength⟩
      · have hhextets := allHextets_lowered hall
        have hcount : (groups.map lowered).length = 8 := by rw [List.length_map, hlength]
        have hcolon : ':' ∈ joined (groups.map lowered) := colon_mem_joined (by omega)
        exact ⟨checksAddress_hex hhextets.noDot hcolon
          (hextetPrefixValid_full hhextets hcount (by decide)), hcolon⟩
      · have hhextets := allHextets_lowered hall
        have hcount : (init.map lowered).length = 6 := by
          rw [List.length_map]
          omega
        rw [List.map_append, List.map_singleton,
          joined_concat (List.ne_nil_of_length_pos (by omega))]
        refine ⟨checksAddress_quad (IsDottedQuad.lowered_iff.2 hquad) ?_,
          List.mem_append_right _ List.mem_cons_self⟩
        rw [if_neg (by simpa using joined_getLast_ne hhextets.proper)]
        exact hextetPrefixValid_full hhextets hcount (by decide)
  | @compressed left right count hleft hright hlength =>
      have hlefts := allHextets_lowered hleft
      have hlowered : lowered (joined left ++ ':' :: ':' :: joined right) =
          joined (left.map lowered) ++ ':' :: ':' :: joined (right.map lowered) := by
        rw [← lowered_joined, ← lowered_joined, lowered, List.map_append]
        rfl
      rw [hlowered]
      refine ⟨?_, List.mem_append_right _ List.mem_cons_self⟩
      rcases hright.cases_quad with ⟨hall, hcount⟩ | ⟨init, quad, rfl, hall, hquad, hcount⟩
      · have hrights := allHextets_lowered hall
        refine checksAddress_hex ?_ (List.mem_append_right _ List.mem_cons_self)
          (hextetPrefixValid_compressed hlefts hrights ?_)
        · simp [hlefts.noDot, hrights.noDot]
        · rw [List.length_map, List.length_map]
          omega
      · have hinits := allHextets_lowered hall
        have hbudget : (left.map lowered).length + (init.map lowered).length ≤ 6 - 1 := by
          rw [List.length_map, List.length_map]
          omega
        have hquad' := IsDottedQuad.lowered_iff.2 hquad
        by_cases hinit : init = []
        · -- the double colon stands right before the quad
          subst hinit
          have hsplit : joined (left.map lowered) ++ ':' :: ':' :: joined ([quad].map lowered) =
              (joined (left.map lowered) ++ [':']) ++ ':' :: lowered quad := by
            rw [List.map_singleton, joined_singleton]
            simp
          rw [List.nil_append, hsplit]
          apply checksAddress_quad hquad'
          rw [if_pos (by simp), List.append_assoc]
          exact hextetPrefixValid_compressed hlefts hinits hbudget
        · have hne : init.map lowered ≠ [] := by simpa using hinit
          have hsplit : joined (left.map lowered) ++
              ':' :: ':' :: joined ((init ++ [quad]).map lowered) =
              (joined (left.map lowered) ++ ':' :: ':' :: joined (init.map lowered)) ++
                ':' :: lowered quad := by
            rw [List.map_append, List.map_singleton, joined_concat hne]
            simp
          rw [hsplit]
          apply checksAddress_quad hquad'
          rw [if_neg]
          · exact hextetPrefixValid_compressed hlefts hinits hbudget
          · rw [List.getLast?_append_of_ne_nil _ (List.cons_ne_nil _ _),
              List.getLast?_cons_of_ne_nil (List.cons_ne_nil _ _),
              List.getLast?_cons_of_ne_nil (joined_ne_nil hinits.proper hne)]
            simpa using joined_getLast_ne hinits.proper

/-- The syntax check accepts exactly the IPv6 texts. -/
theorem isIPv6Address_iff (addr : String) :
    isIPv6Address addr = true ↔ IsIPv6Text addr.toList := by
  constructor
  · intro haccepted
    obtain ⟨values, hdenotes⟩ := denotes_of_isIPv6Address haccepted
    exact Denotes.isIPv6Text hdenotes
  · intro htext
    obtain ⟨hchecked, hcolon⟩ := htext.checked
    have htwo : 2 ≤ addr.length := by
      rw [← String.length_toList]
      exact htext.two_le
    rw [isIPv6Address_eq htwo hcolon]
    exact hchecked

end GovernedRuntime.Adapters
