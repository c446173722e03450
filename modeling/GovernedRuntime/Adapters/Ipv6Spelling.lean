/-
Spellings of IPv6 addresses (`src/adapters/ip-validation.ts`): what an accepted text
denotes, and which spellings of a private address the classifier recognizes.
-/
import Mathlib.Data.List.Forall2
import Mathlib.Data.List.Infix
import Mathlib.Data.List.TakeWhile
import Mathlib.Tactic.Ring
import GovernedRuntime.Adapters.IpValidation
import GovernedRuntime.Library.Lines

namespace GovernedRuntime.Adapters

open GovernedRuntime.Library

/-! ### What a text denotes -/

def joined (groups : List (List Char)) : List Char := [':'].intercalate groups

/-- The hextets of the groups of an address: the last group may be a dotted quad, which
stands for two. -/
inductive Groups : List (List Char) → List Nat → Prop
  | nil : Groups [] []
  | hextet {group groups value values} (hvalue : parseHextet group = some value)
      (hrest : Groups groups values) : Groups (group :: groups) (value :: values)
  | quad {group ip} (hip : parseIPv4 group = some ip) :
      Groups [group] [ip.toNat / 65536, ip.toNat % 65536]

/-- The eight hextets of the address a text spells: one group for each, or two halves
around the zeros that a double colon stands for. -/
inductive Denotes : List Char → List Nat → Prop
  | full {groups values} (hvalues : Groups groups values) (hlength : values.length = 8) :
      Denotes (joined groups) values
  | compressed {left right leftValues rightValues}
      (hleft : parseHextets left = some leftValues) (hright : Groups right rightValues)
      (hlength : leftValues.length + rightValues.length ≤ 7) :
      Denotes (joined left ++ ':' :: ':' :: joined right)
        (leftValues ++ List.replicate (8 - (leftValues.length + rightValues.length)) 0 ++
          rightValues)

/-- The 128-bit number of eight hextets. -/
def addressOf (hextets : List Nat) : Nat :=
  hextets.foldl (fun address hextet => address * 65536 + hextet) 0

/-- An IPv4-mapped or IPv4-compatible form of a private IPv4 address. -/
def EmbedsPrivateIPv4 (address : Nat) : Prop :=
  (address / 2 ^ 32 = 0xffff ∨ address / 2 ^ 32 = 0) ∧
    isPrivateIPv4 (BitVec.ofNat 32 (address % 2 ^ 32)) = true

/-- Unspecified, loopback, unique-local, link-local, multicast, or a private IPv4
address in another form. -/
def Restricted (address : Nat) : Prop :=
  address = 0 ∨ address = 1 ∨ address / 2 ^ 121 = 0xfc / 2 ∨ address / 2 ^ 118 = 0xfe80 / 64 ∨
    address / 2 ^ 120 = 0xff ∨ EmbedsPrivateIPv4 address

/-- The dotted tail stands right after `::` or `::ffff:`. -/
def PlainTail (text : List Char) : Prop :=
  ∃ tail, ':' ∉ tail ∧ (text = "::".toList ++ tail ∨ text = "::ffff:".toList ++ tail)

/-! ### Digits -/

theorem hexDigit_cases {c : Char} {d : Nat} (hdigit : hexDigit c = some d) :
    (c.toNat = 48 + d ∧ d < 10) ∨ (c.toNat = 87 + d ∧ 10 ≤ d ∧ d < 16) := by
  rw [hexDigit] at hdigit
  split_ifs at hdigit with hdecimal hletter
  · have hbounds : 48 ≤ c.toNat ∧ c.toNat ≤ 57 := by
      simpa [Char.isDigit, Char.le_def, UInt32.le_iff_toNat_le] using hdecimal
    have hd := Option.some_inj.1 hdigit
    have hzero : '0'.toNat = 48 := rfl
    omega
  · have hbounds : 97 ≤ c.toNat ∧ c.toNat ≤ 102 := by
      simpa [Char.le_def, UInt32.le_iff_toNat_le] using hletter
    have hd := Option.some_inj.1 hdigit
    have ha : 'a'.toNat = 97 := rfl
    omega

theorem hexDigit_lt {c : Char} {d : Nat} (hdigit : hexDigit c = some d) : d < 16 := by
  rcases hexDigit_cases hdigit with h | h <;> omega

theorem hexDigit_injective {c c' : Char} {d : Nat} (hdigit : hexDigit c = some d)
    (hdigit' : hexDigit c' = some d) : c = c' := by
  refine Char.toNat_inj.1 ?_
  rcases hexDigit_cases hdigit with h | h <;> rcases hexDigit_cases hdigit' with h' | h' <;> omega

theorem foldlM_hexDigit {cs : List Char} {acc value : Nat}
    (hfold : cs.foldlM (fun parsed c => (hexDigit c).map (parsed * 16 + ·)) acc = some value) :
    (∀ c ∈ cs, ∃ d, hexDigit c = some d) ∧
      ∃ rest, value = acc * 16 ^ cs.length + rest ∧ rest < 16 ^ cs.length := by
  induction cs generalizing acc with
  | nil =>
      obtain rfl := Option.some_inj.1 hfold
      exact ⟨fun _ hmem => absurd hmem List.not_mem_nil, 0, by simp, by simp⟩
  | cons c cs ih =>
      rw [List.foldlM_cons] at hfold
      obtain ⟨next, hnext, hrest⟩ := Option.bind_eq_some_iff.1 hfold
      obtain ⟨d, hd, rfl⟩ := Option.map_eq_some_iff.1 hnext
      obtain ⟨hdigits, rest, rfl, hlt⟩ := ih hrest
      have hlt16 := hexDigit_lt hd
      refine ⟨List.forall_mem_cons.2 ⟨⟨d, hd⟩, hdigits⟩, d * 16 ^ cs.length + rest, ?_, ?_⟩
      · rw [List.length_cons, pow_succ]
        ring
      · rw [List.length_cons, pow_succ]
        have hmul : d * 16 ^ cs.length ≤ 15 * 16 ^ cs.length :=
          Nat.mul_le_mul_right _ (by omega)
        omega

/-- A hextet is up to four digits, the first the most significant. -/
theorem parseHextet_shape {group : List Char} {value : Nat}
    (hvalue : parseHextet group = some value) :
    ∃ c cs d rest, group = c :: cs ∧ hexDigit c = some d ∧
      (∀ c ∈ group, ∃ d, hexDigit c = some d) ∧ cs.length ≤ 3 ∧
      value = d * 16 ^ cs.length + rest ∧ rest < 16 ^ cs.length := by
  rw [parseHextet] at hvalue
  split_ifs at hvalue with hlength
  simp only [Bool.and_eq_true, decide_eq_true_eq] at hlength
  cases group with
  | nil => simp at hlength
  | cons c cs =>
      have hdigits := (foldlM_hexDigit hvalue).1
      rw [List.foldlM_cons] at hvalue
      obtain ⟨next, hnext, hrest⟩ := Option.bind_eq_some_iff.1 hvalue
      obtain ⟨d, hd, rfl⟩ := Option.map_eq_some_iff.1 hnext
      obtain ⟨-, rest, rfl, hlt⟩ := foldlM_hexDigit hrest
      exact ⟨c, cs, d, rest, rfl, hd, hdigits, Nat.le_of_succ_le_succ hlength.2, by simp, hlt⟩

theorem parseHextet_lt {group : List Char} {value : Nat}
    (hvalue : parseHextet group = some value) : value < 65536 := by
  obtain ⟨c, cs, d, rest, -, hd, -, hlength, rfl, hlt⟩ := parseHextet_shape hvalue
  have hlt16 := hexDigit_lt hd
  have hpow : 16 ^ cs.length ≤ 16 ^ 3 := Nat.pow_le_pow_right (by decide) hlength
  have hmul : d * 16 ^ cs.length ≤ 15 * 16 ^ cs.length := Nat.mul_le_mul_right _ (by omega)
  omega

/-- A group between colons. -/
structure ProperGroup (group : List Char) : Prop where
  nonempty : group ≠ []
  noColon : ':' ∉ group

theorem parseHextet_proper {group : List Char} {value : Nat}
    (hvalue : parseHextet group = some value) : ProperGroup group ∧ '.' ∉ group := by
  obtain ⟨c, cs, d, rest, hgroup, -, hdigits, -⟩ := parseHextet_shape hvalue
  refine ⟨⟨hgroup ▸ List.cons_ne_nil c cs, fun hmem => ?_⟩, fun hmem => ?_⟩
  · obtain ⟨d, hd⟩ := hdigits _ hmem
    cases (show hexDigit ':' = none by decide).symm.trans hd
  · obtain ⟨d, hd⟩ := hdigits _ hmem
    cases (show hexDigit '.' = none by decide).symm.trans hd

theorem parseIPv4_octets {parts : List (List Char)} {acc ip : BitVec 32}
    (hfold : parts.foldlM (fun (result : BitVec 32) part =>
      (parseOctet part).map fun n => (result <<< 8) ||| BitVec.ofNat 32 n) acc = some ip) :
    ∀ part ∈ parts, ∀ c ∈ part, c.isDigit = true := by
  induction parts generalizing acc with
  | nil => exact fun _ hmem => absurd hmem List.not_mem_nil
  | cons part parts ih =>
      rw [List.foldlM_cons] at hfold
      obtain ⟨next, hnext, hrest⟩ := Option.bind_eq_some_iff.1 hfold
      obtain ⟨n, hn, -⟩ := Option.map_eq_some_iff.1 hnext
      refine List.forall_mem_cons.2 ⟨?_, ih hrest⟩
      rw [parseOctet] at hn
      split_ifs at hn with hdigits
      rw [Bool.and_eq_true, List.all_eq_true] at hdigits
      exact hdigits.2

theorem parseIPv4_proper {text : List Char} {ip : BitVec 32} (hip : parseIPv4 text = some ip) :
    ProperGroup text ∧ '.' ∈ text := by
  rw [parseIPv4] at hip
  split_ifs at hip with hlength
  rw [bne_iff_ne, not_not] at hlength
  have hdot : '.' ∈ text := by
    by_contra hdot
    rw [List.splitOn_eq_singleton hdot] at hlength
    exact absurd hlength (by simp)
  refine ⟨⟨List.ne_nil_of_mem hdot, fun hcolon => ?_⟩, hdot⟩
  have hjoined : ['.'].intercalate (text.splitOn '.') = text := List.intercalate_splitOn '.'
  rw [← hjoined] at hcolon
  rcases mem_of_mem_intercalate hcolon with heq | ⟨part, hpart, hmem⟩
  · exact absurd heq (by decide)
  · exact absurd (parseIPv4_octets hip part hpart _ hmem) (by decide)

theorem parseIPv4_eq_none {text : List Char} (hdot : '.' ∉ text) : parseIPv4 text = none :=
  Option.eq_none_iff_forall_ne_some.2 fun _ hip => hdot (parseIPv4_proper hip).2

theorem parseHextet_eq_none {text : List Char} (hdot : '.' ∈ text) : parseHextet text = none :=
  Option.eq_none_iff_forall_ne_some.2 fun _ hvalue => (parseHextet_proper hvalue).2 hdot

/-! ### Splitting -/

theorem splitDouble_ne_nil (text : List Char) : splitDouble text ≠ [] := by
  fun_induction splitDouble text with
  | case1 => exact List.cons_ne_nil _ _
  | case2 => exact List.cons_ne_nil _ _
  | case3 c rest hne ih =>
      obtain ⟨first, others, heq⟩ := List.exists_cons_of_ne_nil ih
      rw [heq]
      exact List.cons_ne_nil _ _

theorem splitDouble_append {group text : List Char} (hcolon : ':' ∉ group) :
    splitDouble (group ++ text) = (splitDouble text).modifyHead (group ++ ·) := by
  induction group with
  | nil => exact (congrFun List.modifyHead_id _).symm
  | cons c group ih =>
      have hc : c ≠ ':' := fun heq => hcolon (heq ▸ List.mem_cons_self)
      have hsplit : splitDouble (c :: (group ++ text)) =
          (splitDouble (group ++ text)).modifyHead (c :: ·) := by
        rw [splitDouble]
        exact fun _ heq => absurd heq hc
      rw [List.cons_append, hsplit, ih fun hmem => hcolon (List.mem_cons_of_mem c hmem),
        List.modifyHead_modifyHead]
      rfl

theorem splitDouble_colon {c : Char} {text : List Char} (hc : c ≠ ':') :
    splitDouble (':' :: c :: text) = (splitDouble (c :: text)).modifyHead (':' :: ·) := by
  rw [splitDouble]
  exact fun _ _ heq => absurd (List.cons.inj heq).1 hc

@[simp] theorem joined_nil : joined [] = [] := rfl

@[simp] theorem joined_singleton (group : List Char) : joined [group] = group :=
  List.intercalate_singleton

theorem joined_cons {group : List Char} {groups : List (List Char)} (hne : groups ≠ []) :
    joined (group :: groups) = group ++ ':' :: joined groups := by
  obtain ⟨second, rest, rfl⟩ := List.exists_cons_of_ne_nil hne
  rw [joined, List.intercalate_cons_cons, List.append_assoc]
  rfl

theorem joined_concat {groups : List (List Char)} {last : List Char} (hne : groups ≠ []) :
    joined (groups ++ [last]) = joined groups ++ ':' :: last := by
  induction groups with
  | nil => exact absurd rfl hne
  | cons group groups ih =>
      by_cases hrest : groups = []
      · subst hrest
        rw [List.singleton_append, joined_cons (List.cons_ne_nil _ _), joined_singleton,
          joined_singleton]
      · rw [List.cons_append, joined_cons (by simp), ih hrest, joined_cons hrest,
          List.append_assoc]
        rfl

theorem joined_head {group : List Char} {groups : List (List Char)} (hne : group ≠ []) :
    (joined (group :: groups)).head? = group.head? := by
  obtain ⟨c, cs, rfl⟩ := List.exists_cons_of_ne_nil hne
  by_cases hrest : groups = []
  · rw [hrest, joined_singleton]
  · rw [joined_cons hrest]
    rfl

/-- Groups are read back from the text they are joined to. -/
theorem splitHextetSegments_joined {groups : List (List Char)}
    (hproper : ∀ group ∈ groups, ProperGroup group) :
    splitHextetSegments (joined groups) = groups := by
  cases groups with
  | nil => rfl
  | cons group groups =>
      have hne : joined (group :: groups) ≠ [] := fun hnil => by
        have hhead : (joined (group :: groups)).head? = group.head? :=
          joined_head (hproper _ List.mem_cons_self).nonempty
        rw [hnil, List.head?_nil] at hhead
        exact (hproper _ List.mem_cons_self).nonempty (List.head?_eq_none_iff.1 hhead.symm)
      rw [splitHextetSegments, if_neg (by simpa using hne)]
      exact List.splitOn_intercalate ':' (fun group hmem => (hproper group hmem).noColon)
        (List.cons_ne_nil _ _)

theorem joined_splitHextetSegments (text : List Char) :
    joined (splitHextetSegments text) = text := by
  rw [splitHextetSegments]
  split_ifs with hempty
  · rw [List.isEmpty_iff.1 hempty, joined_nil]
  · exact List.intercalate_splitOn ':'

theorem splitDouble_joined_append {groups : List (List Char)} {text : List Char}
    (hproper : ∀ group ∈ groups, ProperGroup group) :
    splitDouble (joined groups ++ text) =
      (splitDouble text).modifyHead (joined groups ++ ·) := by
  induction groups with
  | nil => exact (congrFun List.modifyHead_id _).symm
  | cons group groups ih =>
      rw [List.forall_mem_cons] at hproper
      by_cases hrest : groups = []
      · rw [hrest, joined_singleton, splitDouble_append hproper.1.noColon]
      · obtain ⟨second, others, rfl⟩ := List.exists_cons_of_ne_nil hrest
        have hsecond := hproper.2 second List.mem_cons_self
        obtain ⟨c, cs, hcs⟩ := List.exists_cons_of_ne_nil hsecond.nonempty
        have hhead : (joined (second :: others)).head? = second.head? :=
          joined_head hsecond.nonempty
        rw [hcs, List.head?_cons] at hhead
        obtain ⟨tail, htail⟩ := List.head?_eq_some_iff.1 hhead
        have hc : c ≠ ':' := fun heq =>
          hsecond.noColon (hcs ▸ heq ▸ List.mem_cons_self)
        have hcolon : splitDouble (':' :: (joined (second :: others) ++ text)) =
            (splitDouble (joined (second :: others) ++ text)).modifyHead (':' :: ·) := by
          rw [hcs, htail, List.cons_append, splitDouble_colon hc]
        rw [joined_cons hrest, List.append_assoc, splitDouble_append hproper.1.noColon,
          List.cons_append, hcolon, ih hproper.2, List.modifyHead_modifyHead,
          List.modifyHead_modifyHead]
        congr 1
        funext rest
        simp

theorem splitDouble_joined {groups : List (List Char)}
    (hproper : ∀ group ∈ groups, ProperGroup group) :
    splitDouble (joined groups) = [joined groups] := by
  have hsplit := @splitDouble_joined_append groups [] hproper
  rw [List.append_nil] at hsplit
  rw [hsplit]
  simp [splitDouble]

theorem splitDouble_halves {left : List (List Char)} {text : List Char}
    (hleft : ∀ group ∈ left, ProperGroup group) :
    splitDouble (joined left ++ ':' :: ':' :: text) = joined left :: splitDouble text := by
  rw [splitDouble_joined_append hleft]
  simp [splitDouble]

/-- The pieces of a split, with the separators put back. -/
theorem splitDouble_pair {text first second : List Char}
    (hsplit : splitDouble text = [first, second]) : text = first ++ ':' :: ':' :: second := by
  have hjoin : ∀ text, [':', ':'].intercalate (splitDouble text) = text := by
    intro text
    fun_induction splitDouble text with
    | case1 => rfl
    | case2 rest ih =>
        obtain ⟨piece, pieces, heq⟩ := List.exists_cons_of_ne_nil (splitDouble_ne_nil rest)
        rw [heq] at ih ⊢
        rw [List.intercalate_cons_cons, ih]
        rfl
    | case3 c rest hne ih =>
        obtain ⟨piece, pieces, heq⟩ := List.exists_cons_of_ne_nil (splitDouble_ne_nil rest)
        rw [heq] at ih ⊢
        rw [List.modifyHead_cons]
        cases pieces with
        | nil =>
            rw [List.intercalate_singleton] at ih ⊢
            rw [ih]
        | cons other pieces =>
            rw [List.intercalate_cons_cons] at ih ⊢
            rw [← ih]
            rfl
  have htext := hjoin text
  rw [hsplit] at htext
  rw [← htext]
  simp [List.intercalate_cons_cons]

/-! ### Accepted texts -/

def Hextets (groups : List (List Char)) (values : List Nat) : Prop :=
  List.Forall₂ (fun group value => parseHextet group = some value) groups values

theorem parseHextets_iff {groups : List (List Char)} {values : List Nat} :
    parseHextets groups = some values ↔ Hextets groups values := by
  induction groups generalizing values with
  | nil =>
      rw [Hextets, List.forall₂_nil_left_iff]
      exact ⟨fun h => (Option.some_inj.1 h).symm, fun h => h ▸ rfl⟩
  | cons group groups ih =>
      rw [Hextets, List.forall₂_cons_left_iff, parseHextets, List.mapM_cons]
      constructor
      · intro hvalues
        obtain ⟨value, hvalue, hrest⟩ := Option.bind_eq_some_iff.1 hvalues
        obtain ⟨rest, hrest, heq⟩ := Option.bind_eq_some_iff.1 hrest
        exact ⟨value, rest, hvalue, ih.1 hrest, (Option.some_inj.1 heq).symm⟩
      · rintro ⟨value, rest, hvalue, hrest, rfl⟩
        exact Option.bind_eq_some_iff.2 ⟨value, hvalue,
          Option.bind_eq_some_iff.2 ⟨rest, ih.2 hrest, rfl⟩⟩

theorem Hextets.proper {groups : List (List Char)} {values : List Nat}
    (hvalues : Hextets groups values) : ∀ group ∈ groups, ProperGroup group := by
  induction hvalues with
  | nil => exact fun _ hmem => absurd hmem List.not_mem_nil
  | cons hvalue _ ih => exact List.forall_mem_cons.2 ⟨(parseHextet_proper hvalue).1, ih⟩

theorem exists_hextets {groups : List (List Char)} (hall : allSegmentsAreHextets groups = true) :
    ∃ values, Hextets groups values := by
  induction groups with
  | nil => exact ⟨[], List.Forall₂.nil⟩
  | cons group groups ih =>
      rw [allSegmentsAreHextets, List.all_cons, Bool.and_eq_true] at hall
      obtain ⟨value, hvalue⟩ := Option.isSome_iff_exists.1 hall.1
      obtain ⟨values, hvalues⟩ := ih hall.2
      exact ⟨value :: values, hvalues.cons hvalue⟩

theorem Hextets.groups {groups : List (List Char)} {values : List Nat}
    (hvalues : Hextets groups values) : Groups groups values := by
  induction hvalues with
  | nil => exact .nil
  | cons hvalue _ ih => exact .hextet hvalue ih

theorem Hextets.groups_quad {groups : List (List Char)} {values : List Nat} {tail : List Char}
    {ip : BitVec 32} (hvalues : Hextets groups values) (hip : parseIPv4 tail = some ip) :
    Groups (groups ++ [tail]) (values ++ [ip.toNat / 65536, ip.toNat % 65536]) := by
  induction hvalues with
  | nil => exact .quad hip
  | cons hvalue _ ih => exact .hextet hvalue ih

theorem Groups.proper {groups : List (List Char)} {values : List Nat}
    (hvalues : Groups groups values) : ∀ group ∈ groups, ProperGroup group := by
  induction hvalues with
  | nil => exact fun _ hmem => absurd hmem List.not_mem_nil
  | hextet hvalue _ ih => exact List.forall_mem_cons.2 ⟨(parseHextet_proper hvalue).1, ih⟩
  | quad hip =>
      exact List.forall_mem_cons.2
        ⟨(parseIPv4_proper hip).1, fun _ hmem => absurd hmem List.not_mem_nil⟩

theorem Groups.lt {groups : List (List Char)} {values : List Nat}
    (hvalues : Groups groups values) : ∀ value ∈ values, value < 65536 := by
  induction hvalues with
  | nil => exact fun _ hmem => absurd hmem List.not_mem_nil
  | hextet hvalue _ ih => exact List.forall_mem_cons.2 ⟨parseHextet_lt hvalue, ih⟩
  | @quad group ip hip =>
      have hlt : ip.toNat < 2 ^ 32 := ip.isLt
      intro value hmem
      simp only [List.mem_cons, List.not_mem_nil, or_false] at hmem
      omega

/-- What the prefix check accepts: groups, or two halves around a double colon. -/
theorem hextetPrefixValid_shape {leading : List Char} {max : Nat}
    (hvalid : hextetPrefixValid leading max = true) :
    (∃ groups values, leading = joined groups ∧ Hextets groups values ∧ groups.length = max) ∨
      ∃ left right leftValues rightValues,
        leading = joined left ++ ':' :: ':' :: joined right ∧ Hextets left leftValues ∧
          Hextets right rightValues ∧ left.length + right.length ≤ max - 1 := by
  rw [hextetPrefixValid] at hvalid
  dsimp only at hvalid
  split_ifs at hvalid with hstart hrest hcolon hend hcolon' hwithin hlength
  · obtain ⟨rest, rfl⟩ := List.isPrefixOf_iff_prefix.1 hstart
    have hnil : rest = [] := by simpa using hrest
    subst hnil
    exact .inr ⟨[], [], [], [], rfl, List.Forall₂.nil, List.Forall₂.nil, Nat.zero_le _⟩
  · obtain ⟨rest, rfl⟩ := List.isPrefixOf_iff_prefix.1 hstart
    rw [withinCompressedBudget, Bool.and_eq_true, decide_eq_true_eq] at hvalid
    obtain ⟨values, hvalues⟩ := exists_hextets hvalid.2
    refine .inr ⟨[], _, [], values, ?_, List.Forall₂.nil, hvalues, by simpa using hvalid.1⟩
    rw [joined_splitHextetSegments]
    rfl
  · obtain ⟨before, rfl⟩ := List.isSuffixOf_iff_suffix.1 hend
    have htake : (before ++ "::".toList).take ((before ++ "::".toList).length - 2) = before := by
      simp
    rw [htake, withinCompressedBudget, Bool.and_eq_true, decide_eq_true_eq] at hvalid
    obtain ⟨values, hvalues⟩ := exists_hextets hvalid.2
    refine .inr ⟨_, [], values, [], ?_, hvalues, List.Forall₂.nil, by simpa using hvalid.1⟩
    rw [joined_splitHextetSegments]
    rfl
  · split at hvalid
    · rename_i left right hsplit
      rw [withinCompressedBudget, Bool.and_eq_true, decide_eq_true_eq, allSegmentsAreHextets,
        List.all_append, Bool.and_eq_true, List.length_append] at hvalid
      obtain ⟨leftValues, hleft⟩ := exists_hextets hvalid.2.1
      obtain ⟨rightValues, hright⟩ := exists_hextets hvalid.2.2
      refine .inr ⟨_, _, leftValues, rightValues, ?_, hleft, hright, hvalid.1⟩
      rw [joined_splitHextetSegments, joined_splitHextetSegments]
      exact splitDouble_pair hsplit
    · exact absurd hvalid Bool.false_ne_true
  · rw [bne_iff_ne, not_not] at hlength
    obtain ⟨values, hvalues⟩ := exists_hextets hvalid
    exact .inl ⟨_, values, (List.intercalate_splitOn ':').symm, hvalues, hlength⟩

theorem splitLastColon_eq {text : List Char} (hcolon : ':' ∈ text) :
    text = (splitLastColon text).1 ++ ':' :: (splitLastColon text).2 ∧
      ':' ∉ (splitLastColon text).2 := by
  have hsplit := @List.takeWhile_append_dropWhile _ (· != ':') text.reverse
  have hrest : text.reverse.dropWhile (· != ':') ≠ [] := by
    intro hnil
    have hall := List.dropWhile_eq_nil_iff.1 hnil ':' (List.mem_reverse.2 hcolon)
    exact absurd hall (by decide)
  obtain ⟨c, rest, hdrop⟩ := List.exists_cons_of_ne_nil hrest
  have hc : c = ':' := by
    have hhead := List.head_dropWhile_not (· != ':') hrest
    simp only [hdrop, List.head_cons, bne_eq_false_iff_eq] at hhead
    exact hhead
  subst hc
  refine ⟨?_, fun hmem => ?_⟩
  · rw [hdrop] at hsplit
    rw [splitLastColon, hdrop, List.tail_cons]
    calc text = text.reverse.reverse := (List.reverse_reverse text).symm
      _ = (text.reverse.takeWhile (· != ':') ++ ':' :: rest).reverse := by rw [hsplit]
      _ = rest.reverse ++ ':' :: (text.reverse.takeWhile (· != ':')).reverse := by simp
  · have hmem := List.mem_takeWhile_imp (List.mem_reverse.1 hmem)
    exact absurd hmem (by decide)

theorem Hextets.length_eq {groups : List (List Char)} {values : List Nat}
    (hvalues : Hextets groups values) : groups.length = values.length :=
  List.Forall₂.length_eq hvalues

theorem denotes_of_hextetPrefixValid {text : List Char}
    (hvalid : hextetPrefixValid text 8 = true) : ∃ values, Denotes text values := by
  rcases hextetPrefixValid_shape hvalid with
    ⟨groups, values, rfl, hvalues, hlength⟩ |
      ⟨left, right, leftValues, rightValues, rfl, hleft, hright, hlength⟩
  · exact ⟨values, .full hvalues.groups (hvalues.length_eq ▸ hlength)⟩
  · refine ⟨_, .compressed (parseHextets_iff.2 hleft) hright.groups ?_⟩
    rw [← hleft.length_eq, ← hright.length_eq]
    exact hlength

theorem joined_getLast_ne {groups : List (List Char)}
    (hproper : ∀ group ∈ groups, ProperGroup group) : (joined groups).getLast? ≠ some ':' := by
  rcases List.eq_nil_or_concat' groups with rfl | ⟨init, last, rfl⟩
  · exact nofun
  · have hlast := hproper last (List.mem_append_right _ List.mem_cons_self)
    have hend : (joined (init ++ [last])).getLast? = last.getLast? := by
      by_cases hinit : init = []
      · rw [hinit, List.nil_append, joined_singleton]
      · rw [joined_concat hinit, List.getLast?_append_of_ne_nil _ (List.cons_ne_nil _ _),
          List.getLast?_cons_of_ne_nil hlast.nonempty]
    rw [hend]
    exact fun heq => hlast.noColon (List.mem_of_getLast? heq)

/-- A dotted tail takes the place of the last two hextets. -/
theorem denotes_dotted {before tail : List Char} {ip : BitVec 32}
    (hip : parseIPv4 tail = some ip)
    (hvalid : hextetPrefixValid
      (if before.getLast? == some ':' then before ++ [':'] else before) 6 = true) :
    ∃ values, Denotes (before ++ ':' :: tail) values := by
  split_ifs at hvalid with hlast
  · -- Only one colon of a double colon stands before the last one.
    obtain ⟨init, rfl⟩ := List.getLast?_eq_some_iff.1 (beq_iff_eq.1 hlast)
    rcases hextetPrefixValid_shape hvalid with
      ⟨groups, values, heq, hvalues, hlength⟩ |
        ⟨left, right, leftValues, rightValues, heq, hleft, hright, hlength⟩
    · have hend := joined_getLast_ne hvalues.proper
      rw [← heq, List.getLast?_concat] at hend
      exact absurd rfl hend
    · have hright' : right = [] := by
        by_contra hne
        have hend := joined_getLast_ne hright.proper
        have hjoined : joined right ≠ [] := by
          intro hnil
          rw [← splitHextetSegments_joined hright.proper, hnil] at hne
          exact hne rfl
        have hlast' := congrArg List.getLast? heq
        rw [List.getLast?_concat, List.getLast?_append_of_ne_nil _ (List.cons_ne_nil _ _),
          List.getLast?_cons_of_ne_nil (List.cons_ne_nil _ _),
          List.getLast?_cons_of_ne_nil hjoined] at hlast'
        exact hend hlast'.symm
      subst hright'
      have hinit : init = joined left := by
        have hsuffix : init ++ [':', ':'] = joined left ++ [':', ':'] := by
          rw [joined_nil] at heq
          simpa using heq
        exact List.append_cancel_right hsuffix
      have hgroups : Groups [tail] _ := .quad hip
      have hdenotes := Denotes.compressed (parseHextets_iff.2 hleft) hgroups (by
        have hcount := hleft.length_eq
        simp only [List.length_cons, List.length_nil] at hlength ⊢
        omega)
      rw [joined_singleton] at hdenotes
      rw [hinit, List.append_assoc]
      exact ⟨_, hdenotes⟩
  · rcases hextetPrefixValid_shape hvalid with
      ⟨groups, values, rfl, hvalues, hlength⟩ |
        ⟨left, right, leftValues, rightValues, rfl, hleft, hright, hlength⟩
    · have hne : groups ≠ [] := fun hnil => by rw [hnil] at hlength; exact absurd hlength (by decide)
      rw [← joined_concat hne]
      refine ⟨_, .full (hvalues.groups_quad hip) ?_⟩
      rw [List.length_append, ← hvalues.length_eq, hlength]
      rfl
    · have hne : right ≠ [] := by
        rintro rfl
        rw [joined_nil, List.getLast?_append_of_ne_nil _ (List.cons_ne_nil _ _)] at hlast
        exact hlast rfl
      have hdenotes := Denotes.compressed (parseHextets_iff.2 hleft) (hright.groups_quad hip) (by
        have hcount := hleft.length_eq
        have hcount' := hright.length_eq
        simp only [List.length_append, List.length_cons, List.length_nil]
        omega)
      rw [joined_concat hne] at hdenotes
      exact ⟨_, by simpa using hdenotes⟩

/-- Every accepted text is the spelling of an address. -/
theorem denotes_of_isIPv6Address {addr : String} (haccepted : isIPv6Address addr = true) :
    ∃ values, Denotes (lowerCase addr) values := by
  rw [isIPv6Address] at haccepted
  dsimp only at haccepted
  by_cases hlength : addr.length < 2
  · rw [if_pos hlength] at haccepted
    cases haccepted
  by_cases hcolon : ':' ∈ lowerCase addr
  · rw [if_neg hlength, if_neg (by simpa using hcolon)] at haccepted
    obtain ⟨htext, -⟩ := splitLastColon_eq hcolon
    by_cases hdotted : ((splitLastColon (lowerCase addr)).2.contains '.' &&
        (parseIPv4 (splitLastColon (lowerCase addr)).2).isSome) = true
    · rw [if_pos hdotted] at haccepted
      obtain ⟨ip, hip⟩ := Option.isSome_iff_exists.1 (Bool.and_eq_true_iff.1 hdotted).2
      rw [htext]
      exact denotes_dotted hip haccepted
    · rw [if_neg hdotted] at haccepted
      exact denotes_of_hextetPrefixValid haccepted
  · rw [if_neg hlength, if_pos (by simpa using hcolon)] at haccepted
    cases haccepted

/-! ### Addresses -/

theorem Denotes.length {text : List Char} {values : List Nat} (hdenotes : Denotes text values) :
    values.length = 8 := by
  cases hdenotes with
  | full _ hlength => exact hlength
  | compressed _ _ hlength =>
      rw [List.length_append, List.length_append, List.length_replicate]
      omega

theorem Denotes.lt {text : List Char} {values : List Nat} (hdenotes : Denotes text values) :
    ∀ value ∈ values, value < 65536 := by
  cases hdenotes with
  | full hvalues _ => exact hvalues.lt
  | compressed hleft hright _ =>
      intro value hmem
      rcases List.mem_append.1 hmem with hmem | hmem
      · rcases List.mem_append.1 hmem with hmem | hmem
        · exact (parseHextets_iff.1 hleft).groups.lt value hmem
        · rw [List.eq_of_mem_replicate hmem]
          decide
      · exact hright.lt value hmem

/-- Groups have one reading: a dotted quad has dots, a hextet has none. -/
theorem Groups.unique {groups : List (List Char)} {values others : List Nat}
    (hvalues : Groups groups values) (hothers : Groups groups others) : values = others := by
  induction hvalues generalizing others with
  | nil =>
      cases hothers
      rfl
  | hextet hvalue _ ih =>
      cases hothers with
      | hextet hother hrest => rw [Option.some_inj.1 (hvalue.symm.trans hother), ih hrest]
      | quad hip => exact absurd (parseIPv4_proper hip).2 (parseHextet_proper hvalue).2
  | quad hip =>
      cases hothers with
      | hextet hvalue _ => exact absurd (parseIPv4_proper hip).2 (parseHextet_proper hvalue).2
      | quad hother => rw [Option.some_inj.1 (hip.symm.trans hother)]

theorem joined_inj {groups others : List (List Char)}
    (hgroups : ∀ group ∈ groups, ProperGroup group)
    (hothers : ∀ group ∈ others, ProperGroup group) :
    joined groups = joined others ↔ groups = others := by
  refine ⟨fun heq => ?_, congrArg joined⟩
  rw [← splitHextetSegments_joined hgroups, heq, splitHextetSegments_joined hothers]

/-- Groups alone are no two halves around a double colon. -/
theorem joined_ne_halves {groups left right : List (List Char)}
    (hgroups : ∀ group ∈ groups, ProperGroup group) (hleft : ∀ group ∈ left, ProperGroup group)
    (hright : ∀ group ∈ right, ProperGroup group) :
    joined groups ≠ joined left ++ ':' :: ':' :: joined right := by
  intro heq
  have hsplit := congrArg splitDouble heq
  rw [splitDouble_joined hgroups, splitDouble_halves hleft, splitDouble_joined hright] at hsplit
  exact absurd (congrArg List.length hsplit) (by simp)

/-- A text denotes at most one address. -/
theorem Denotes.unique {text : List Char} {values others : List Nat}
    (hvalues : Denotes text values) (hothers : Denotes text others) : values = others := by
  cases hvalues with
  | @full groups _ hgroups _ =>
      generalize htext : joined groups = text at hothers
      cases hothers with
      | full hgroups' _ =>
          obtain rfl := (joined_inj hgroups.proper hgroups'.proper).1 htext
          exact hgroups.unique hgroups'
      | compressed hleft hright _ =>
          exact absurd htext
            (joined_ne_halves hgroups.proper (parseHextets_iff.1 hleft).proper hright.proper)
  | @compressed left right leftValues rightValues hleft hright _ =>
      have hproper := (parseHextets_iff.1 hleft).proper
      generalize htext : joined left ++ ':' :: ':' :: joined right = text at hothers
      cases hothers with
      | full hgroups _ =>
          exact absurd htext.symm (joined_ne_halves hgroups.proper hproper hright.proper)
      | compressed hleft' hright' _ =>
          have hproper' := (parseHextets_iff.1 hleft').proper
          have hsplit := congrArg splitDouble htext
          rw [splitDouble_halves hproper, splitDouble_halves hproper',
            splitDouble_joined hright.proper, splitDouble_joined hright'.proper] at hsplit
          simp only [List.cons.injEq, and_true] at hsplit
          obtain rfl := (joined_inj hproper hproper').1 hsplit.1
          obtain rfl := (joined_inj hright.proper hright'.proper).1 hsplit.2
          obtain rfl := Option.some_inj.1 (hleft.symm.trans hleft')
          rw [hright.unique hright']

theorem Groups.hextets {groups : List (List Char)} {values : List Nat}
    (hvalues : Groups groups values) (hdot : ∀ group ∈ groups, '.' ∉ group) :
    Hextets groups values := by
  induction hvalues with
  | nil => exact List.Forall₂.nil
  | hextet hvalue _ ih => exact List.Forall₂.cons hvalue (ih (List.forall_mem_cons.1 hdot).2)
  | quad hip => exact absurd (parseIPv4_proper hip).2 (hdot _ List.mem_cons_self)

theorem notMem_of_joined {groups : List (List Char)} (hdot : '.' ∉ joined groups) :
    ∀ group ∈ groups, '.' ∉ group :=
  fun _ hgroup hmem => hdot (mem_intercalate_of_mem hgroup hmem)

/-- The expansion of a text without a dotted tail is the address it denotes. -/
theorem expandIpv6Hextets_of_denotes {text : List Char} {values : List Nat}
    (hdenotes : Denotes text values) (hdot : '.' ∉ text) :
    expandIpv6Hextets text = some values := by
  rw [expandIpv6Hextets, if_neg (by simpa using hdot)]
  cases hdenotes with
  | full hvalues hlength =>
      have hhextets := hvalues.hextets (notMem_of_joined hdot)
      rw [splitDouble_joined hvalues.proper]
      dsimp only
      rw [splitHextetSegments_joined hvalues.proper, parseHextets_iff.2 hhextets,
        Option.bind_eq_bind, Option.bind_some, if_neg (by simpa using hlength)]
  | compressed hleft hright hlength =>
      have hproper := (parseHextets_iff.1 hleft).proper
      have hhextets := hright.hextets (notMem_of_joined fun hmem =>
        hdot (List.mem_append_right _ (List.mem_cons_of_mem _ (List.mem_cons_of_mem _ hmem))))
      rw [splitDouble_halves hproper, splitDouble_joined hright.proper]
      dsimp only
      rw [splitHextetSegments_joined hproper, splitHextetSegments_joined hright.proper, hleft,
        parseHextets_iff.2 hhextets, Option.bind_eq_bind, Option.bind_some, Option.bind_some,
        if_neg (by omega)]

/-- The first hextet is the value of the first group, or zero after a double colon. -/
theorem Denotes.head {text : List Char} {first : Nat} {values : List Nat}
    (hdenotes : Denotes text (first :: values)) :
    (∃ group rest, text = group ++ rest ∧ parseHextet group = some first) ∨
      text.head? = some ':' ∧ first = 0 := by
  generalize hall : first :: values = all at hdenotes
  cases hdenotes with
  | full hvalues hlength =>
      subst hall
      cases hvalues with
      | @hextet group groups _ _ hvalue hrest =>
          by_cases hgroups : groups = []
          · exact .inl ⟨group, [], by rw [hgroups, joined_singleton, List.append_nil], hvalue⟩
          · exact .inl ⟨group, _, joined_cons hgroups, hvalue⟩
      | quad hip => exact absurd hlength (by simp)
  | @compressed left _ leftValues rightValues hleft hright hlength =>
      rw [parseHextets_iff, Hextets] at hleft
      cases hleft with
      | nil =>
          refine .inr ⟨rfl, ?_⟩
          rw [List.length_nil, Nat.zero_add] at hall hlength
          rw [show 8 - rightValues.length = (7 - rightValues.length) + 1 by omega,
            List.replicate_succ] at hall
          exact (List.cons.inj hall).1
      | @cons group value groups _ hvalue hrest =>
          obtain ⟨rfl, -⟩ := List.cons.inj hall
          by_cases hgroups : groups = []
          · exact .inl ⟨group, _, by rw [hgroups, joined_singleton], hvalue⟩
          · exact .inl ⟨group, _, by rw [joined_cons hgroups, List.append_assoc], hvalue⟩

/-- The tests of the text that stand for the three address blocks. -/
def blockTests (normalized : List Char) : Bool :=
  "fc".toList.isPrefixOf normalized || "fd".toList.isPrefixOf normalized ||
    ["fe8", "fe9", "fea", "feb"].any (·.toList.isPrefixOf normalized) ||
    "ff".toList.isPrefixOf normalized

/-- A hextet with a high first byte is written with four digits. -/
theorem parseHextet_high {group : List Char} {value : Nat}
    (hvalue : parseHextet group = some value) (hhigh : 0xf000 ≤ value) :
    ∃ c₁ c₂ c₃ d₁ d₂ d₃, group = ['f', c₁, c₂, c₃] ∧ hexDigit c₁ = some d₁ ∧
      hexDigit c₂ = some d₂ ∧ hexDigit c₃ = some d₃ ∧
      value = 0xf000 + d₁ * 256 + d₂ * 16 + d₃ := by
  obtain ⟨c, cs, d, rest, rfl, hd, hdigits, hlength, heq, hlt⟩ := parseHextet_shape hvalue
  have hd16 := hexDigit_lt hd
  have hlong : cs.length = 3 := by
    by_contra hshort
    have hpow : 16 ^ cs.length ≤ 16 ^ 2 := Nat.pow_le_pow_right (by decide) (by omega)
    have hmul : d * 16 ^ cs.length ≤ 15 * 16 ^ cs.length := Nat.mul_le_mul_right _ (by omega)
    omega
  rw [hlong] at heq hlt
  have hd15 : d = 15 := by omega
  subst hd15
  obtain ⟨c₁, c₂, c₃, rfl⟩ := List.length_eq_three.1 hlong
  obtain ⟨d₁, hd₁⟩ := hdigits c₁ (by simp)
  obtain ⟨d₂, hd₂⟩ := hdigits c₂ (by simp)
  obtain ⟨d₃, hd₃⟩ := hdigits c₃ (by simp)
  have hc : c = 'f' := hexDigit_injective hd (by decide)
  subst hc
  have hsum : value = (((0 * 16 + 15) * 16 + d₁) * 16 + d₂) * 16 + d₃ := by
    simpa [parseHextet, hd, hd₁, hd₂, hd₃] using hvalue.symm
  exact ⟨c₁, c₂, c₃, d₁, d₂, d₃, rfl, hd₁, hd₂, hd₃, by omega⟩

/-- An address of one of the blocks is spelled with the letters the tests look for. -/
theorem blockTests_of_denotes {text : List Char} {first : Nat} {values : List Nat}
    (hdenotes : Denotes text (first :: values))
    (hblock : first / 512 = 0x7e ∨ first / 64 = 0x3fa ∨ first / 256 = 0xff) :
    blockTests text = true := by
  rcases hdenotes.head with ⟨group, rest, rfl, hvalue⟩ | ⟨-, rfl⟩
  · obtain ⟨c₁, c₂, c₃, d₁, d₂, d₃, rfl, hd₁, hd₂, hd₃, rfl⟩ :=
      parseHextet_high hvalue (by omega)
    have h₂ := hexDigit_lt hd₂
    have h₃ := hexDigit_lt hd₃
    rcases hblock with hlocal | hlink | hmulticast
    · have hd : d₁ = 12 ∨ d₁ = 13 := by omega
      rcases hd with rfl | rfl
      · obtain rfl : c₁ = 'c' := hexDigit_injective hd₁ (by decide)
        rfl
      · obtain rfl : c₁ = 'd' := hexDigit_injective hd₁ (by decide)
        rfl
    · have hd : d₁ = 14 ∧ (d₂ = 8 ∨ d₂ = 9 ∨ d₂ = 10 ∨ d₂ = 11) := by
        have h₁ := hexDigit_lt hd₁
        omega
      obtain ⟨rfl, rfl | rfl | rfl | rfl⟩ := hd
      · obtain rfl : c₁ = 'e' := hexDigit_injective hd₁ (by decide)
        obtain rfl : c₂ = '8' := hexDigit_injective hd₂ (by decide)
        rfl
      · obtain rfl : c₁ = 'e' := hexDigit_injective hd₁ (by decide)
        obtain rfl : c₂ = '9' := hexDigit_injective hd₂ (by decide)
        rfl
      · obtain rfl : c₁ = 'e' := hexDigit_injective hd₁ (by decide)
        obtain rfl : c₂ = 'a' := hexDigit_injective hd₂ (by decide)
        rfl
      · obtain rfl : c₁ = 'e' := hexDigit_injective hd₁ (by decide)
        obtain rfl : c₂ = 'b' := hexDigit_injective hd₂ (by decide)
        rfl
    · have hd : d₁ = 15 := by
        have h₁ := hexDigit_lt hd₁
        omega
      subst hd
      obtain rfl : c₁ = 'f' := hexDigit_injective hd₁ (by decide)
      rfl
  · exact absurd hblock (by decide)

/-- They find nothing in an address that begins with a zero hextet. -/
theorem blockTests_eq_false {text : List Char} {values : List Nat}
    (hdenotes : Denotes text (0 :: values)) : blockTests text = false := by
  have hhead : ∀ rest, text ≠ 'f' :: rest := by
    rintro rest rfl
    rcases hdenotes.head with ⟨group, rest', heq, hvalue⟩ | ⟨hcolon, -⟩
    · obtain ⟨c, cs, d, low, rfl, hd, -, -, hzero, -⟩ := parseHextet_shape hvalue
      obtain ⟨rfl, -⟩ := List.cons.inj heq
      obtain rfl : 15 = d := Option.some_inj.1 ((by decide : hexDigit 'f' = some 15).symm.trans hd)
      have hpos : 0 < 16 ^ cs.length := Nat.pow_pos (by decide)
      omega
    · exact absurd hcolon (by simp)
  cases text with
  | nil => rfl
  | cons c rest =>
      have hc : ¬ c = 'f' := fun heq => hhead rest (heq ▸ rfl)
      simp [blockTests, List.isPrefixOf, Ne.symm hc]

/-! ### Embedded IPv4 addresses -/

/-- The embedded address the classifier looks at first. -/
def embeddedIPv4 (normalized : List Char) : Option (BitVec 32) :=
  parseIPv4MappedIPv6 normalized <|> parseIPv4CompatibleIpv6 normalized

theorem isPrivateIPv6_of_embedded {addr : String} {ip : BitVec 32}
    (hembedded : embeddedIPv4 (lowerCase addr) = some ip) :
    isPrivateIPv6 addr = isPrivateIPv4 ip := by
  rw [embeddedIPv4] at hembedded
  rw [isPrivateIPv6, hembedded]

theorem isPrivateIPv6_of_none {addr : String}
    (hembedded : embeddedIPv4 (lowerCase addr) = none) :
    isPrivateIPv6 addr = (lowerCase addr == "::".toList || lowerCase addr == "::1".toList ||
      blockTests (lowerCase addr)) := by
  rw [embeddedIPv4] at hembedded
  rw [isPrivateIPv6, hembedded, blockTests]
  simp only [Bool.or_assoc]

/-- The shortcut for `::ffff:` and two hextets reads the address they denote. -/
theorem expand_of_legacy {text : List Char} {ip : BitVec 32}
    (hlegacy : parseLegacyMappedIpv4 text = some ip) (hdot : '.' ∉ text) :
    ∃ high low, expandIpv6Hextets text = some [0, 0, 0, 0, 0, 0xffff, high, low] ∧
      ip = joinHextets high low := by
  rw [parseLegacyMappedIpv4] at hlegacy
  dsimp only at hlegacy
  split_ifs at hlegacy with hstart
  rw [Bool.not_eq_true', Bool.not_eq_false] at hstart
  obtain ⟨suffix, rfl⟩ := List.isPrefixOf_iff_prefix.1 hstart
  have hdrop : ("::ffff:".toList ++ suffix).drop 7 = suffix := rfl
  rw [hdrop, parseIPv4_eq_none fun hmem => hdot (List.mem_append_right _ hmem)] at hlegacy
  dsimp only at hlegacy
  split at hlegacy
  · rename_i first second hsplit
    obtain ⟨high, hhigh, hlegacy⟩ := Option.bind_eq_some_iff.1 hlegacy
    obtain ⟨low, hlow, heq⟩ := Option.bind_eq_some_iff.1 hlegacy
    refine ⟨high, low, ?_, (Option.some_inj.1 heq).symm⟩
    refine expandIpv6Hextets_of_denotes ?_ hdot
    have hgroups : Groups ["ffff".toList, first, second] [0xffff, high, low] :=
      .hextet (by decide) (.hextet hhigh (.hextet hlow .nil))
    have hjoined : joined ["ffff".toList, first, second] = "ffff:".toList ++ suffix := by
      rw [joined_cons (List.cons_ne_nil _ _), joined, ← hsplit, List.intercalate_splitOn]
      rfl
    have hdenotes := @Denotes.compressed [] _ [] _ rfl hgroups (by simp)
    rw [hjoined] at hdenotes
    exact hdenotes
  · cases hlegacy

/-- Without a dotted tail the embedded address is found in every spelling. -/
theorem embeddedIPv4_of_expand {text : List Char} {h₀ h₁ h₂ h₃ h₄ h₅ h₆ h₇ : Nat}
    (hexpand : expandIpv6Hextets text = some [h₀, h₁, h₂, h₃, h₄, h₅, h₆, h₇])
    (hdot : '.' ∉ text) :
    embeddedIPv4 text =
      if h₀ = 0 ∧ h₁ = 0 ∧ h₂ = 0 ∧ h₃ = 0 ∧ h₄ = 0 ∧ (h₅ = 0xffff ∨ h₅ = 0) then
        some (joinHextets h₆ h₇)
      else none := by
  have hcompatible : (if "::".toList.isPrefixOf text then parseIPv4 (text.drop 2) else none) =
      none := by
    rw [parseIPv4_eq_none fun hmem => hdot (List.mem_of_mem_drop hmem), ite_self]
  cases hlegacy : parseLegacyMappedIpv4 text with
  | some ip =>
      obtain ⟨high, low, hexpand', rfl⟩ := expand_of_legacy hlegacy hdot
      rw [hexpand, Option.some_inj] at hexpand'
      simp only [List.cons.injEq, and_true] at hexpand'
      obtain ⟨rfl, rfl, rfl, rfl, rfl, rfl, rfl, rfl⟩ := hexpand'
      rw [embeddedIPv4, parseIPv4MappedIPv6, hlegacy, if_pos (by simp)]
      rfl
  | none =>
      rw [embeddedIPv4, parseIPv4MappedIPv6, hlegacy, parseIPv4CompatibleIpv6, hcompatible,
        hexpand]
      by_cases h5 : h₅ = 0xffff
      · simp [h5]
        grind
      · simp [h5]
        grind

theorem embeddedIPv4_of_not_plain {text : List Char} (hdot : '.' ∈ text)
    (hplain : ¬ PlainTail text) : embeddedIPv4 text = none := by
  have hexpand : expandIpv6Hextets text = none := by
    rw [expandIpv6Hextets, if_pos (List.contains_iff_mem.2 hdot)]
  have hquad : ∀ leading suffix ip, text = leading ++ suffix →
      (leading = "::".toList ∨ leading = "::ffff:".toList) → parseIPv4 suffix ≠ some ip := by
    intro leading suffix ip htext hleading hip
    refine hplain ⟨suffix, (parseIPv4_proper hip).1.noColon, ?_⟩
    rcases hleading with rfl | rfl
    · exact .inl htext
    · exact .inr htext
  have hlegacy : parseLegacyMappedIpv4 text = none := by
    rw [parseLegacyMappedIpv4]
    dsimp only
    split_ifs with hstart
    · rfl
    · rw [Bool.not_eq_true', Bool.not_eq_false] at hstart
      obtain ⟨suffix, rfl⟩ := List.isPrefixOf_iff_prefix.1 hstart
      have hdrop : ("::ffff:".toList ++ suffix).drop 7 = suffix := rfl
      rw [hdrop, Option.eq_none_iff_forall_ne_some.2 fun ip => hquad _ _ ip rfl (.inr rfl)]
      dsimp only
      split
      · rename_i first second hsplit
        -- The dot stands in one of the two groups, which then is no hextet.
        have hmem : '.' ∈ joined [first, second] := by
          rw [joined, ← hsplit, List.intercalate_splitOn]
          exact (List.mem_append.1 hdot).resolve_left (by decide)
        rcases mem_of_mem_intercalate hmem with heq | ⟨group, hgroup, hin⟩
        · exact absurd heq (by decide)
        · rcases List.mem_cons.1 hgroup with rfl | hgroup
          · rw [parseHextet_eq_none hin]
            rfl
          · obtain rfl := List.mem_singleton.1 hgroup
            rw [parseHextet_eq_none hin]
            cases parseHextet first <;> rfl
      · rfl
  have hcompatible : (if "::".toList.isPrefixOf text then parseIPv4 (text.drop 2) else none) =
      none := by
    split_ifs with hstart
    · obtain ⟨suffix, rfl⟩ := List.isPrefixOf_iff_prefix.1 hstart
      exact Option.eq_none_iff_forall_ne_some.2 fun ip => hquad _ _ ip rfl (.inl rfl)
    · rfl
  rw [embeddedIPv4, parseIPv4MappedIPv6, hlegacy, hexpand, parseIPv4CompatibleIpv6,
    hcompatible, hexpand]
  rfl

/-- A text that begins with a double colon has only zeros before what follows it. -/
theorem groups_of_denotes {right : List (List Char)} {values : List Nat}
    (hproper : ∀ group ∈ right, ProperGroup group)
    (hdenotes : Denotes (':' :: ':' :: joined right) values) :
    ∃ rightValues, Groups right rightValues ∧
      values = List.replicate (8 - rightValues.length) 0 ++ rightValues := by
  have hsplit : splitDouble (':' :: ':' :: joined right) = [[], joined right] := by
    rw [splitDouble, splitDouble_joined hproper]
  generalize htext : ':' :: ':' :: joined right = text at hdenotes hsplit
  cases hdenotes with
  | full hvalues _ =>
      rw [splitDouble_joined hvalues.proper] at hsplit
      exact absurd (congrArg List.length hsplit) (by simp)
  | @compressed left right' leftValues rightValues hleft hright _ =>
      have hproper' := (parseHextets_iff.1 hleft).proper
      rw [splitDouble_halves hproper', splitDouble_joined hright.proper] at hsplit
      simp only [List.cons.injEq, and_true] at hsplit
      obtain rfl : left = [] := by
        rw [← splitHextetSegments_joined hproper', hsplit.1]
        rfl
      obtain rfl : right' = right := by
        rw [← splitHextetSegments_joined hright.proper, hsplit.2,
          splitHextetSegments_joined hproper]
      obtain rfl : leftValues = [] := (Option.some_inj.1 hleft).symm
      exact ⟨rightValues, hright, by simp⟩

theorem Groups.quad_of_dot {tail : List Char} {values : List Nat} (hdot : '.' ∈ tail)
    (hvalues : Groups [tail] values) :
    ∃ ip, parseIPv4 tail = some ip ∧ values = [ip.toNat / 65536, ip.toNat % 65536] := by
  cases hvalues with
  | hextet hvalue _ => exact absurd hdot (parseHextet_proper hvalue).2
  | quad hip => exact ⟨_, hip, rfl⟩

/-- Right after `::` or `::ffff:` the dotted tail is the embedded address. -/
theorem embeddedIPv4_of_plain {text : List Char} {values : List Nat} (hdot : '.' ∈ text)
    (hplain : PlainTail text) (hdenotes : Denotes text values) :
    ∃ ip : BitVec 32, ∃ sixth, (sixth = 0 ∨ sixth = 0xffff) ∧ embeddedIPv4 text = some ip ∧
      values = [0, 0, 0, 0, 0, sixth, ip.toNat / 65536, ip.toNat % 65536] := by
  obtain ⟨tail, hcolon, rfl | rfl⟩ := hplain
  · have htail : '.' ∈ tail := (List.mem_append.1 hdot).resolve_left (by decide)
    have hproper : ∀ group ∈ [tail], ProperGroup group := by
      simpa using ⟨List.ne_nil_of_mem htail, hcolon⟩
    have hsame : "::".toList ++ tail = ':' :: ':' :: joined [tail] := by
      rw [joined_singleton]
      rfl
    obtain ⟨rightValues, hgroups, rfl⟩ := groups_of_denotes hproper (hsame ▸ hdenotes)
    obtain ⟨ip, hip, rfl⟩ := hgroups.quad_of_dot htail
    refine ⟨ip, 0, .inl rfl, ?_, rfl⟩
    have hexpand : expandIpv6Hextets ("::".toList ++ tail) = none := by
      rw [expandIpv6Hextets, if_pos (List.contains_iff_mem.2 hdot)]
    have hlegacy : parseLegacyMappedIpv4 ("::".toList ++ tail) = none := by
      rw [parseLegacyMappedIpv4, if_pos]
      rw [Bool.not_eq_true', Bool.eq_false_iff]
      intro hstart
      obtain ⟨rest, heq⟩ := List.isPrefixOf_iff_prefix.1 hstart
      have htail' : "ffff:".toList ++ rest = tail := (List.cons.inj (List.cons.inj heq).2).2
      exact hcolon (htail' ▸ List.mem_append_left _ (by decide))
    have hstart : "::".toList.isPrefixOf ("::".toList ++ tail) = true := rfl
    have hdrop : ("::".toList ++ tail).drop 2 = tail := rfl
    rw [embeddedIPv4, parseIPv4MappedIPv6, hlegacy, hexpand, parseIPv4CompatibleIpv6,
      if_pos hstart, hdrop, hip]
    rfl
  · have htail : '.' ∈ tail := (List.mem_append.1 hdot).resolve_left (by decide)
    have hproper : ∀ group ∈ ["ffff".toList, tail], ProperGroup group :=
      List.forall_mem_cons.2 ⟨⟨by decide, by decide⟩, List.forall_mem_cons.2
        ⟨⟨List.ne_nil_of_mem htail, hcolon⟩, fun _ hmem => absurd hmem List.not_mem_nil⟩⟩
    have hsame : "::ffff:".toList ++ tail = ':' :: ':' :: joined ["ffff".toList, tail] := by
      rw [joined_cons (List.cons_ne_nil _ _), joined_singleton]
      rfl
    obtain ⟨rightValues, hgroups, rfl⟩ := groups_of_denotes hproper (hsame ▸ hdenotes)
    cases hgroups with
    | @hextet _ _ value rest hvalue hrest =>
        obtain ⟨ip, hip, rfl⟩ := hrest.quad_of_dot htail
        obtain rfl : 0xffff = value :=
          Option.some_inj.1 ((by decide : parseHextet "ffff".toList = some 0xffff).symm.trans hvalue)
        refine ⟨ip, 0xffff, .inr rfl, ?_, rfl⟩
        have hlegacy : parseLegacyMappedIpv4 ("::ffff:".toList ++ tail) = some ip := by
          have hstart : (!"::ffff:".toList.isPrefixOf ("::ffff:".toList ++ tail)) = false := rfl
          have hdrop : ("::ffff:".toList ++ tail).drop 7 = tail := rfl
          rw [parseLegacyMappedIpv4, hstart, if_neg Bool.false_ne_true, hdrop]
          dsimp only
          rw [hip]
        rw [embeddedIPv4, parseIPv4MappedIPv6, hlegacy]
        rfl

/-! ### Private addresses -/

theorem joinHextets_eq {high low : Nat} (hlow : low < 65536) :
    joinHextets high low = BitVec.ofNat 32 (high * 65536 + low) := by
  refine BitVec.eq_of_toNat_eq ?_
  rw [joinHextets, BitVec.toNat_or, BitVec.toNat_shiftLeft]
  simp only [BitVec.toNat_ofNat, Nat.shiftLeft_eq]
  have hhigh : high % 2 ^ 32 * 2 ^ 16 % 2 ^ 32 = (high % 2 ^ 16) <<< 16 := by
    rw [Nat.shiftLeft_eq]
    omega
  rw [hhigh, Nat.mod_eq_of_lt (by omega : low < 2 ^ 32), ← Nat.shiftLeft_add_eq_or_of_lt hlow,
    Nat.shiftLeft_eq]
  omega

section Eight

variable {h₀ h₁ h₂ h₃ h₄ h₅ h₆ h₇ : Nat}

theorem addressOf_eq : addressOf [h₀, h₁, h₂, h₃, h₄, h₅, h₆, h₇] =
    ((((((h₀ * 65536 + h₁) * 65536 + h₂) * 65536 + h₃) * 65536 + h₄) * 65536 + h₅) * 65536 +
      h₆) * 65536 + h₇ := by
  simp [addressOf]

theorem embeds_iff (hlt : ∀ h ∈ [h₀, h₁, h₂, h₃, h₄, h₅, h₆, h₇], h < 65536) :
    EmbedsPrivateIPv4 (addressOf [h₀, h₁, h₂, h₃, h₄, h₅, h₆, h₇]) ↔
      (h₀ = 0 ∧ h₁ = 0 ∧ h₂ = 0 ∧ h₃ = 0 ∧ h₄ = 0 ∧ (h₅ = 0xffff ∨ h₅ = 0)) ∧
        isPrivateIPv4 (joinHextets h₆ h₇) = true := by
  simp only [List.mem_cons, List.not_mem_nil, or_false, forall_eq_or_imp, forall_eq] at hlt
  obtain ⟨-, hl₁, hl₂, hl₃, hl₄, hl₅, hl₆, hl₇⟩ := hlt
  rw [EmbedsPrivateIPv4, addressOf_eq, joinHextets_eq hl₇]
  have hlow : (((((((h₀ * 65536 + h₁) * 65536 + h₂) * 65536 + h₃) * 65536 + h₄) * 65536 + h₅) *
      65536 + h₆) * 65536 + h₇) % 2 ^ 32 = h₆ * 65536 + h₇ := by
    omega
  rw [hlow]
  refine and_congr_left fun _ => ?_
  omega

theorem restricted_iff (hlt : ∀ h ∈ [h₀, h₁, h₂, h₃, h₄, h₅, h₆, h₇], h < 65536) :
    Restricted (addressOf [h₀, h₁, h₂, h₃, h₄, h₅, h₆, h₇]) ↔
      (h₀ / 512 = 0x7e ∨ h₀ / 64 = 0x3fa ∨ h₀ / 256 = 0xff) ∨
        EmbedsPrivateIPv4 (addressOf [h₀, h₁, h₂, h₃, h₄, h₅, h₆, h₇]) := by
  have hzero : isPrivateIPv4 (joinHextets 0 0) = true := by decide +kernel
  have hone : isPrivateIPv4 (joinHextets 0 1) = true := by decide +kernel
  rw [Restricted, embeds_iff hlt]
  simp only [List.mem_cons, List.not_mem_nil, or_false, forall_eq_or_imp, forall_eq] at hlt
  obtain ⟨hl₀, hl₁, hl₂, hl₃, hl₄, hl₅, hl₆, hl₇⟩ := hlt
  rw [addressOf_eq]
  constructor
  · rintro (hunspecified | hloopback | hlocal | hlink | hmulticast | hembeds)
    · obtain ⟨rfl, rfl, rfl, rfl, rfl, rfl, rfl, rfl⟩ : h₀ = 0 ∧ h₁ = 0 ∧ h₂ = 0 ∧ h₃ = 0 ∧
          h₄ = 0 ∧ h₅ = 0 ∧ h₆ = 0 ∧ h₇ = 0 := by omega
      exact .inr ⟨by simp, hzero⟩
    · obtain ⟨rfl, rfl, rfl, rfl, rfl, rfl, rfl, rfl⟩ : h₀ = 0 ∧ h₁ = 0 ∧ h₂ = 0 ∧ h₃ = 0 ∧
          h₄ = 0 ∧ h₅ = 0 ∧ h₆ = 0 ∧ h₇ = 1 := by omega
      exact .inr ⟨by simp, hone⟩
    · exact .inl (.inl (by omega))
    · exact .inl (.inr (.inl (by omega)))
    · exact .inl (.inr (.inr (by omega)))
    · exact .inr hembeds
  · rintro ((hlocal | hlink | hmulticast) | hembeds)
    · exact .inr (.inr (.inl (by omega)))
    · exact .inr (.inr (.inr (.inl (by omega))))
    · exact .inr (.inr (.inr (.inr (.inl (by omega)))))
    · exact .inr (.inr (.inr (.inr (.inr hembeds))))

end Eight

theorem exists_eight {values : List Nat} (hlength : values.length = 8) :
    ∃ h₀ h₁ h₂ h₃ h₄ h₅ h₆ h₇, values = [h₀, h₁, h₂, h₃, h₄, h₅, h₆, h₇] := by
  match values, hlength with
  | [h₀, h₁, h₂, h₃, h₄, h₅, h₆, h₇], _ => exact ⟨h₀, h₁, h₂, h₃, h₄, h₅, h₆, h₇, rfl⟩

/-- When the embedded address is found, or there is none, the classifier is right. -/
theorem isPrivateIPv6_of_restricted {addr : String} {values : List Nat}
    (hdenotes : Denotes (lowerCase addr) values)
    (hspelling : '.' ∉ lowerCase addr ∨ PlainTail (lowerCase addr) ∨
      ¬ EmbedsPrivateIPv4 (addressOf values))
    (hrestricted : Restricted (addressOf values)) : isPrivateIPv6 addr = true := by
  have hlt := hdenotes.lt
  obtain ⟨h₀, h₁, h₂, h₃, h₄, h₅, h₆, h₇, rfl⟩ := exists_eight hdenotes.length
  rw [restricted_iff hlt] at hrestricted
  have hblocks : embeddedIPv4 (lowerCase addr) = none →
      (h₀ / 512 = 0x7e ∨ h₀ / 64 = 0x3fa ∨ h₀ / 256 = 0xff) → isPrivateIPv6 addr = true := by
    intro hnone hblock
    rw [isPrivateIPv6_of_none hnone, blockTests_of_denotes hdenotes hblock, Bool.or_true]
  by_cases hdot : '.' ∈ lowerCase addr
  · by_cases hplain : PlainTail (lowerCase addr)
    · obtain ⟨ip, sixth, hsixth, hembedded, heq⟩ := embeddedIPv4_of_plain hdot hplain hdenotes
      simp only [List.cons.injEq, and_true] at heq
      obtain ⟨rfl, rfl, rfl, rfl, rfl, rfl, rfl, rfl⟩ := heq
      have hembeds := (embeds_iff hlt).1 (hrestricted.resolve_left (by decide))
      have hip : joinHextets (ip.toNat / 65536) (ip.toNat % 65536) = ip := by
        rw [joinHextets_eq (Nat.mod_lt _ (by decide)), Nat.div_add_mod', BitVec.ofNat_toNat,
          BitVec.setWidth_eq]
      rw [isPrivateIPv6_of_embedded hembedded, ← hip]
      exact hembeds.2
    · have hembeds := (hspelling.resolve_left (not_not.2 hdot)).resolve_left hplain
      exact hblocks (embeddedIPv4_of_not_plain hdot hplain) (hrestricted.resolve_right hembeds)
  · have hembedded := embeddedIPv4_of_expand (expandIpv6Hextets_of_denotes hdenotes hdot) hdot
    rw [embeds_iff hlt] at hrestricted
    split_ifs at hembedded with hzeros
    · rw [isPrivateIPv6_of_embedded hembedded]
      exact (hrestricted.resolve_left (by omega)).2
    · exact hblocks hembedded (hrestricted.resolve_right fun hembeds => hzeros hembeds.1)

/-- A dotted tail after any other spelling of the zeros is not looked at. -/
theorem not_isPrivateIPv6_of_hidden {addr : String} {values : List Nat}
    (hdenotes : Denotes (lowerCase addr) values) (hdot : '.' ∈ lowerCase addr)
    (hplain : ¬ PlainTail (lowerCase addr)) (hembeds : EmbedsPrivateIPv4 (addressOf values)) :
    isPrivateIPv6 addr = false := by
  have hlt := hdenotes.lt
  obtain ⟨h₀, h₁, h₂, h₃, h₄, h₅, h₆, h₇, rfl⟩ := exists_eight hdenotes.length
  obtain ⟨⟨rfl, -⟩, -⟩ := (embeds_iff hlt).1 hembeds
  have hshort : ∀ literal : List Char, '.' ∉ literal → (lowerCase addr == literal) = false :=
    fun literal hliteral => beq_false_of_ne fun heq => hliteral (heq ▸ hdot)
  rw [isPrivateIPv6_of_none (embeddedIPv4_of_not_plain hdot hplain),
    hshort _ (by decide), hshort _ (by decide), blockTests_eq_false hdenotes]
  rfl

/-- An accepted text spells an address; the classifier recognizes a restricted one unless
its private IPv4 address is a dotted tail after other zeros than `::` or `::ffff:`. -/
theorem isPrivateIPv6_iff_recognizable {addr : String} (haccepted : isIPv6Address addr = true) :
    (∃ values, Denotes (lowerCase addr) values) ∧
      ∀ values, Denotes (lowerCase addr) values →
        ((Restricted (addressOf values) → isPrivateIPv6 addr = true) ↔
          '.' ∉ lowerCase addr ∨ PlainTail (lowerCase addr) ∨
            ¬ EmbedsPrivateIPv4 (addressOf values)) := by
  refine ⟨denotes_of_isIPv6Address haccepted, fun values hdenotes =>
    ⟨fun hclaim => ?_, isPrivateIPv6_of_restricted hdenotes⟩⟩
  by_contra hhidden
  rw [not_or, not_or, not_not, not_not] at hhidden
  obtain ⟨hdot, hplain, hembeds⟩ := hhidden
  have hprivate := hclaim (.inr (.inr (.inr (.inr (.inr hembeds)))))
  rw [not_isPrivateIPv6_of_hidden hdenotes hdot hplain hembeds] at hprivate
  exact Bool.false_ne_true hprivate

theorem isPrivateIPv6_mapped_loopback : isPrivateIPv6 "::FFFF:127.0.0.1" = true := by
  have hgroups : Groups ["ffff".toList, "127.0.0.1".toList]
      (0xffff :: [(0x7f000001 : BitVec 32).toNat / 65536, (0x7f000001 : BitVec 32).toNat % 65536]) :=
    .hextet (by decide) (.quad (by decide +kernel))
  have hdenotes : Denotes (lowerCase "::FFFF:127.0.0.1") _ :=
    @Denotes.compressed [] _ [] _ rfl hgroups (by decide)
  refine ((isPrivateIPv6_iff_recognizable (by decide +kernel)).2 _ hdenotes).2
    (.inr (.inl ⟨"127.0.0.1".toList, by decide, .inr rfl⟩)) ?_
  exact .inr (.inr (.inr (.inr (.inr (by rw [EmbedsPrivateIPv4]; decide +kernel)))))

/-- The loopback address, mapped, with the five zeros before it written out. -/
theorem not_isPrivateIPv6_written_out :
    ¬ ∀ addr values, isIPv6Address addr = true → Denotes (lowerCase addr) values →
      Restricted (addressOf values) → isPrivateIPv6 addr = true := by
  intro hall
  have hgroups : Groups
      ["0".toList, "0".toList, "0".toList, "0".toList, "0".toList, "ffff".toList,
        "127.0.0.1".toList]
      [0, 0, 0, 0, 0, 0xffff, (0x7f000001 : BitVec 32).toNat / 65536,
        (0x7f000001 : BitVec 32).toNat % 65536] :=
    .hextet (by decide) (.hextet (by decide) (.hextet (by decide) (.hextet (by decide)
      (.hextet (by decide) (.hextet (by decide) (.quad (by decide +kernel)))))))
  have hdenotes : Denotes (lowerCase "0:0:0:0:0:ffff:127.0.0.1") _ := .full hgroups rfl
  have hprivate := hall _ _ (by decide +kernel) hdenotes
    (.inr (.inr (.inr (.inr (.inr (by rw [EmbedsPrivateIPv4]; decide +kernel))))))
  have hpublic : isPrivateIPv6 "0:0:0:0:0:ffff:127.0.0.1" = false := by decide +kernel
  exact Bool.false_ne_true (hpublic.symm.trans hprivate)

end GovernedRuntime.Adapters
