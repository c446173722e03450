/-
JSON values: objects as lists of fields in the order their keys are listed, the
one recursion every traversal goes by, and the value an object denotes whatever
the order of its fields.
-/
import GovernedRuntime.Library.Texts
import Mathlib.Data.List.TakeWhile

namespace GovernedRuntime.Library

/-! ### Numbers -/

/-- The integer part of a numeral. -/
def isWholePart : List Char → Bool
  | ['0'] => true
  | digit :: rest => digit.isDigit && digit != '0' && rest.all Char.isDigit
  | [] => false

def isDigits (digits : List Char) : Bool :=
  !digits.isEmpty && digits.all Char.isDigit

/-- `.digits`, or nothing. -/
def isFraction : List Char → Bool
  | [] => true
  | '.' :: digits => isDigits digits
  | _ => false

/-- `e` or `E`, an optional sign and digits, or nothing. -/
def isExponent : List Char → Bool
  | [] => true
  | _ :: '+' :: digits => isDigits digits
  | _ :: '-' :: digits => isDigits digits
  | _ :: digits => isDigits digits

def isExponentMark (c : Char) : Bool := c == 'e' || c == 'E'

/-- A number as the grammar of JSON texts has it. -/
def isNumeral (text : List Char) : Bool :=
  let unsigned := if text.head? == some '-' then text.tail else text
  let mantissa := unsigned.takeWhile (!isExponentMark ·)
  isWholePart (mantissa.takeWhile (· != '.')) &&
    isFraction (mantissa.dropWhile (· != '.')) &&
    isExponent (unsigned.dropWhile (!isExponentMark ·))

/-- The largest natural number below which every one is represented exactly. -/
def maxExactNat : Nat := 9007199254740991

/-- A type of numbers to read from numerals and to print as numerals.  Numbers
that compare equal are one number: there is a single zero. -/
class JsonNumber (N : Type) where
  /-- What a finite number prints as; an infinite one has no numeral. -/
  numeral : N → Option String
  ofNumeral : String → N
  ofNat : Nat → N
  /-- The natural number it is, up to the largest exact one. -/
  natural : N → Option Nat
  isNumeral_numeral : ∀ {n text}, numeral n = some text → isNumeral text.toList = true
  ofNumeral_numeral : ∀ {n text}, numeral n = some text → ofNumeral text = n
  natural_ofNat : ∀ {k}, k ≤ maxExactNat → natural (ofNat k) = some k
  ofNat_natural : ∀ {n k}, natural n = some k → ofNat k = n ∧ k ≤ maxExactNat
  finite_ofNat : ∀ {k}, k ≤ maxExactNat → (numeral (ofNat k)).isSome = true

theorem natural_of_infinite {N : Type} [JsonNumber N] {value : N}
    (hinfinite : ¬(JsonNumber.numeral value).isSome = true) :
    JsonNumber.natural value = none := by
  by_contra hne
  obtain ⟨k, hk⟩ := Option.ne_none_iff_exists'.1 hne
  obtain ⟨heq, hle⟩ := JsonNumber.ofNat_natural hk
  exact hinfinite (heq ▸ JsonNumber.finite_ofNat hle)

/-! ### Natural numbers as numbers -/

theorem isWholePart_toDigits (n : Nat) : isWholePart (Nat.toDigits 10 n) = true := by
  have hdigits : ∀ {m : Nat}, ∀ c ∈ Nat.toDigits 10 m, c.isDigit = true :=
    fun c hmem => Nat.isDigit_of_mem_toDigits (by decide) (by decide) hmem
  have hpositive : ∀ m : Nat, 0 < m → ∃ digit rest, Nat.toDigits 10 m = digit :: rest ∧
      digit ≠ '0' := by
    intro m
    induction m using Nat.strong_induction_on with
    | _ m ih =>
        intro hm
        rcases Nat.lt_or_ge m 10 with hlt | hge
        · refine ⟨m.digitChar, [], Nat.toDigits_of_lt_base hlt, ?_⟩
          rw [Ne, Nat.digitChar_eq_zero]
          exact hm.ne'
        · obtain ⟨digit, rest, hquotient, hne⟩ := ih (m / 10) (by omega) (by omega)
          refine ⟨digit, rest ++ [(m % 10).digitChar], ?_, hne⟩
          rw [Nat.toDigits_of_base_le (by decide) hge, hquotient, List.cons_append]
  rcases Nat.eq_zero_or_pos n with rfl | hn
  · rfl
  · obtain ⟨digit, rest, heq, hne⟩ := hpositive n hn
    have hall := hdigits (m := n)
    rw [heq] at hall ⊢
    rw [List.forall_mem_cons] at hall
    rw [isWholePart, hall.1, bne_iff_ne.2 hne, List.all_eq_true.2 hall.2]
    · rfl
    · rintro rfl
      exact absurd rfl hne

theorem isNumeral_of_isWholePart {text : List Char} (hwhole : isWholePart text = true)
    (hdigits : ∀ c ∈ text, c.isDigit = true) : isNumeral text = true := by
  have hmark : ∀ c ∈ text, (!isExponentMark c) = true := by
    intro c hmem
    have hdigit := hdigits c hmem
    by_contra hmark
    rw [Bool.not_eq_true, Bool.not_eq_false', isExponentMark, Bool.or_eq_true, beq_iff_eq,
      beq_iff_eq] at hmark
    rcases hmark with rfl | rfl <;> exact absurd hdigit (by decide)
  have hpoint : ∀ c ∈ text, (c != '.') = true := by
    intro c hmem
    rw [bne_iff_ne]
    rintro rfl
    exact absurd (hdigits _ hmem) (by decide)
  have hsign : ¬(text.head? == some '-') = true := by
    rw [beq_iff_eq]
    intro hhead
    exact absurd (hdigits _ (List.mem_of_head? hhead)) (by decide)
  have htake : ∀ {p : Char → Bool}, (∀ c ∈ text, p c = true) →
      text.takeWhile p = text ∧ text.dropWhile p = [] :=
    fun hp => ⟨List.takeWhile_eq_self_iff.2 hp, List.dropWhile_eq_nil_iff.2 hp⟩
  rw [isNumeral, if_neg hsign]
  simp only [(htake hmark).1, (htake hmark).2, (htake hpoint).1, (htake hpoint).2, hwhole]
  rfl

instance : JsonNumber Nat where
  numeral n := some n.repr
  ofNumeral text := Nat.ofDigitChars 10 text.toList 0
  ofNat := id
  natural n := if n ≤ maxExactNat then some n else none
  isNumeral_numeral := by
    rintro n text ⟨⟩
    rw [Nat.toList_repr]
    exact isNumeral_of_isWholePart (isWholePart_toDigits n)
      fun c hmem => Nat.isDigit_of_mem_toDigits (by decide) (by decide) hmem
  ofNumeral_numeral := by
    rintro n text ⟨⟩
    rw [Nat.toList_repr, Nat.ofDigitChars_ten_toDigits]
  natural_ofNat := fun hle => if_pos hle
  ofNat_natural := by
    intro n k hnatural
    obtain ⟨hle, hn⟩ := Option.ite_none_right_eq_some.1 hnatural
    cases hn
    exact ⟨rfl, hle⟩
  finite_ofNat := fun _ => rfl

/-! ### Values -/

/-- A JSON value over a type of numbers. -/
inductive Json (N : Type) where
  | null
  | bool (value : Bool)
  | number (value : N)
  | string (value : String)
  | array (items : List (Json N))
  | object (fields : List (String × Json N))
deriving Repr

namespace Json

variable {N α β : Type}

/-- What a traversal does at each kind of value. -/
structure Algebra (N α : Type) where
  null : α
  bool : Bool → α
  number : N → α
  string : String → α
  array : List α → α
  object : List (String × α) → α

mutual

def fold (alg : Algebra N α) : Json N → α
  | .null => alg.null
  | .bool value => alg.bool value
  | .number value => alg.number value
  | .string value => alg.string value
  | .array items => alg.array (foldItems alg items)
  | .object fields => alg.object (foldFields alg fields)
termination_by structural value => value

def foldItems (alg : Algebra N α) : List (Json N) → List α
  | [] => []
  | item :: rest => item.fold alg :: foldItems alg rest
termination_by structural items => items

def foldFields (alg : Algebra N α) : List (String × Json N) → List (String × α)
  | [] => []
  | (key, value) :: rest => (key, value.fold alg) :: foldFields alg rest
termination_by structural fields => fields

end

theorem foldItems_eq (alg : Algebra N α) (items : List (Json N)) :
    foldItems alg items = items.map (fold alg) := by
  induction items with
  | nil => rfl
  | cons item rest ih => rw [foldItems, ih, List.map_cons]

theorem foldFields_eq (alg : Algebra N α) (fields : List (String × Json N)) :
    foldFields alg fields = fields.map (Prod.map id (fold alg)) := by
  induction fields with
  | nil => rfl
  | cons field rest ih => rw [foldFields, ih, List.map_cons, Prod.map_apply, id]

theorem fold_array (alg : Algebra N α) (items : List (Json N)) :
    (array items).fold alg = alg.array (items.map (fold alg)) := by
  rw [fold, foldItems_eq]

theorem fold_object (alg : Algebra N α) (fields : List (String × Json N)) :
    (object fields).fold alg = alg.object (fields.map (Prod.map id (fold alg))) := by
  rw [fold, foldFields_eq]

/-- Induction with the values below an array or an object as they stand in it. -/
@[elab_as_elim]
theorem inductionOn {P : Json N → Prop} (null : P .null) (bool : ∀ b, P (.bool b))
    (number : ∀ n, P (.number n)) (string : ∀ s, P (.string s))
    (array : ∀ items, (∀ item ∈ items, P item) → P (.array items))
    (object : ∀ fields, (∀ field ∈ fields, P field.2) → P (.object fields))
    (value : Json N) : P value :=
  @Json.rec N P (fun items => ∀ item ∈ items, P item)
    (fun fields => ∀ field ∈ fields, P field.2) (fun field => P field.2)
    null bool number string array object
    (fun _ hmem => absurd hmem List.not_mem_nil)
    (fun _ _ hfirst hrest => List.forall_mem_cons.2 ⟨hfirst, hrest⟩)
    (fun _ hmem => absurd hmem List.not_mem_nil)
    (fun _ _ hfirst hrest => List.forall_mem_cons.2 ⟨hfirst, hrest⟩)
    (fun _ _ hvalue => hvalue) value

end Json

/-! ### The order of keys -/

/-- The array index a key is the decimal text of. -/
def arrayIndex (key : String) : Option Nat :=
  let n := Nat.ofDigitChars 10 key.toList 0
  if toString n == key && n < 4294967295 then some n else none

/-- The order in which an object lists keys it was given in the order of their
code units: array indices first and by value. -/
def keyLE (a b : String) : Bool :=
  match arrayIndex a, arrayIndex b with
  | some i, some j => i ≤ j
  | some _, none => true
  | none, some _ => false
  | none, none => codeUnits a ≤ codeUnits b

theorem toString_arrayIndex {key : String} {n : Nat} (hindex : arrayIndex key = some n) :
    toString n = key := by
  obtain ⟨htest, heq⟩ := Option.ite_none_right_eq_some.1 hindex
  rw [Bool.and_eq_true, beq_iff_eq] at htest
  cases heq
  exact htest.1

theorem keyLE_total (a b : String) : keyLE a b = true ∨ keyLE b a = true := by
  unfold keyLE
  cases ha : arrayIndex a <;> cases hb : arrayIndex b <;>
    simp only [decide_eq_true_eq, Bool.false_eq_true, or_true, or_false]
  · exact le_total _ _
  · exact Nat.le_total _ _

theorem keyLE_trans {a b c : String} (hab : keyLE a b = true) (hbc : keyLE b c = true) :
    keyLE a c = true := by
  unfold keyLE at *
  cases ha : arrayIndex a <;> cases hb : arrayIndex b <;> cases hc : arrayIndex c <;>
    simp only [ha, hb, hc, decide_eq_true_eq, Bool.false_eq_true] at hab hbc ⊢
  · exact le_trans hab hbc
  · exact Nat.le_trans hab hbc

theorem keyLE_antisymm {a b : String} (hab : keyLE a b = true) (hba : keyLE b a = true) :
    a = b := by
  unfold keyLE at *
  cases ha : arrayIndex a <;> cases hb : arrayIndex b <;>
    simp only [ha, hb, decide_eq_true_eq, Bool.false_eq_true] at hab hba
  · exact codeUnits_injective (le_antisymm hab hba)
  · rw [← toString_arrayIndex ha, ← toString_arrayIndex hb, Nat.le_antisymm hab hba]

/-! ### Fields in the order of their keys -/

section Fields

variable {α β : Type}

/-- The keys of some fields. -/
def keysOf (fields : List (String × α)) : List String := fields.map Prod.fst

def fieldLE (a b : String × α) : Prop := keyLE a.1 b.1 = true

instance : DecidableRel (@fieldLE α) := fun a b =>
  inferInstanceAs (Decidable (keyLE a.1 b.1 = true))

instance : Std.Total (@fieldLE α) := ⟨fun a b => keyLE_total a.1 b.1⟩

instance : IsTrans (String × α) fieldLE := ⟨fun _ _ _ => keyLE_trans⟩

def arrange (fields : List (String × α)) : List (String × α) :=
  fields.insertionSort fieldLE

theorem arrange_perm (fields : List (String × α)) : (arrange fields).Perm fields :=
  List.perm_insertionSort fieldLE fields

theorem mem_arrange {fields : List (String × α)} {field : String × α} :
    field ∈ arrange fields ↔ field ∈ fields :=
  (arrange_perm fields).mem_iff

theorem arrange_pairwise (fields : List (String × α)) : (arrange fields).Pairwise fieldLE :=
  List.pairwise_insertionSort fieldLE fields

theorem arrange_eq_self {fields : List (String × α)} (hordered : fields.Pairwise fieldLE) :
    arrange fields = fields :=
  hordered.insertionSort_eq

theorem arrange_map (f : α → β) (fields : List (String × α)) :
    arrange (fields.map (Prod.map id f)) = (arrange fields).map (Prod.map id f) :=
  (List.map_insertionSort fieldLE fieldLE (Prod.map id f) fields fun _ _ _ _ => Iff.rfl).symm

theorem keysOf_map (f : α → β) (fields : List (String × α)) :
    keysOf (fields.map (Prod.map id f)) = keysOf fields := by
  rw [keysOf, List.map_map]
  rfl

theorem eq_of_mem_of_keys_nodup {fields : List (String × α)} (hnodup : (keysOf fields).Nodup)
    {key : String} {v w : α} (hv : (key, v) ∈ fields) (hw : (key, w) ∈ fields) : v = w := by
  have heq := List.inj_on_of_nodup_map hnodup hv hw rfl
  exact congrArg Prod.snd heq

/-- Which order distinct fields come in does not change their arrangement. -/
theorem arrange_congr {fields fields' : List (String × α)}
    (hnodup : (keysOf fields).Nodup) (hperm : fields.Perm fields') :
    arrange fields = arrange fields' := by
  have hperm' : (arrange fields).Perm (arrange fields') :=
    (arrange_perm fields).trans (hperm.trans (arrange_perm fields').symm)
  refine hperm'.eq_of_pairwise ?_ (arrange_pairwise fields) (arrange_pairwise fields')
  rintro ⟨key, v⟩ ⟨key', w⟩ hv hw hle hle'
  cases keyLE_antisymm hle hle'
  have hv' := (arrange_perm fields).mem_iff.1 hv
  have hw' := hperm.mem_iff.2 ((arrange_perm fields').mem_iff.1 hw)
  rw [eq_of_mem_of_keys_nodup hnodup hv' hw']

theorem arrange_filter {fields : List (String × α)} (hnodup : (keysOf fields).Nodup)
    (keep : String → Bool) :
    arrange (fields.filter (keep ·.1)) = (arrange fields).filter (keep ·.1) := by
  have hsub : (keysOf (fields.filter (keep ·.1))).Nodup :=
    hnodup.sublist (List.filter_sublist.map Prod.fst)
  rw [arrange_congr hsub ((arrange_perm fields).symm.filter _)]
  exact arrange_eq_self ((arrange_pairwise fields).filter _)

theorem lookup_eq_some_iff_mem {fields : List (String × α)} (hnodup : (keysOf fields).Nodup)
    {key : String} {value : α} :
    fields.lookup key = some value ↔ (key, value) ∈ fields := by
  induction fields with
  | nil => simp
  | cons field rest ih =>
      obtain ⟨name, first⟩ := field
      rw [keysOf, List.map_cons, List.nodup_cons] at hnodup
      rw [List.lookup_cons, List.mem_cons, Prod.mk.injEq]
      by_cases hname : key = name
      · subst hname
        have hrest : (key, value) ∉ rest := fun hmem =>
          hnodup.1 (List.mem_map.2 ⟨_, hmem, rfl⟩)
        rw [beq_self_eq_true, or_iff_left hrest, Option.some_inj]
        exact ⟨fun heq => ⟨rfl, heq.symm⟩, fun heq => heq.2.symm⟩
      · rw [beq_false_of_ne hname, ih hnodup.2]
        exact (or_iff_right fun heq => hname heq.1).symm

theorem mem_of_lookup {fields : List (String × α)} {key : String} {value : α}
    (hlookup : fields.lookup key = some value) : (key, value) ∈ fields := by
  obtain ⟨_, _, hsplit, _⟩ := List.lookup_eq_some_iff.1 hlookup
  rw [hsplit]
  exact List.mem_append_right _ List.mem_cons_self

theorem lookup_congr {fields fields' : List (String × α)} (hnodup : (keysOf fields).Nodup)
    (hperm : fields.Perm fields') (key : String) :
    fields.lookup key = fields'.lookup key := by
  have hnodup' : (keysOf fields').Nodup := (hperm.map Prod.fst).nodup_iff.1 hnodup
  refine Option.ext fun value => ?_
  rw [lookup_eq_some_iff_mem hnodup, lookup_eq_some_iff_mem hnodup', hperm.mem_iff]

/-- The field of a key, and the others. -/
theorem perm_cons_of_lookup {fields : List (String × α)} (hnodup : (keysOf fields).Nodup)
    {key : String} {value : α} (hlookup : fields.lookup key = some value) :
    fields.Perm ((key, value) :: fields.filter fun field => !([key].contains field.1)) := by
  have hother : ∀ {field : String × α},
      (!([key].contains field.1)) = true ↔ field.1 ≠ key := by
    intro field
    rw [Bool.not_eq_true', List.contains_cons, List.contains_nil, Bool.or_false,
      beq_eq_false_iff_ne]
  have hfresh : (key, value) ∉ fields.filter fun field => !([key].contains field.1) :=
    fun hmem => hother.1 (List.mem_filter.1 hmem).2 rfl
  refine (List.perm_ext_iff_of_nodup (.of_map _ hnodup)
    (List.nodup_cons.2 ⟨hfresh, (List.Nodup.of_map _ hnodup).filter _⟩)).2 ?_
  rintro ⟨name, other⟩
  rw [List.mem_cons, List.mem_filter, hother, Prod.mk.injEq]
  constructor
  · intro hmem
    by_cases hname : name = key
    · subst hname
      exact .inl ⟨rfl, eq_of_mem_of_keys_nodup hnodup hmem (mem_of_lookup hlookup)⟩
    · exact .inr ⟨hmem, hname⟩
  · rintro (⟨rfl, rfl⟩ | ⟨hmem, _⟩)
    · exact mem_of_lookup hlookup
    · exact hmem

theorem lookup_map (f : α → β) (fields : List (String × α)) (key : String) :
    (fields.map (Prod.map id f)).lookup key = (fields.lookup key).map f := by
  induction fields with
  | nil => rfl
  | cons field rest ih =>
      rw [List.map_cons, Prod.map_apply, id, List.lookup_cons, List.lookup_cons, ih]
      cases key == field.1 <;> rfl

theorem lookup_filter {keep : String → Bool} {key : String} (hkeep : keep key = true)
    (fields : List (String × α)) :
    (fields.filter (keep ·.1)).lookup key = fields.lookup key := by
  induction fields with
  | nil => rfl
  | cons field rest ih =>
      by_cases hname : key = field.1
      · rw [List.filter_cons_of_pos (hname ▸ hkeep), List.lookup_cons, List.lookup_cons, ih]
      · have hskip : (field :: rest).lookup key = rest.lookup key := by
          rw [List.lookup_cons, beq_false_of_ne hname]
        rw [hskip, ← ih, List.filter_cons]
        split_ifs
        · rw [List.lookup_cons, beq_false_of_ne hname]
        · rfl

end Fields

namespace Json

variable {N α : Type}

/-! ### Fields -/

def fields : Json N → List (String × Json N)
  | .object fields => fields
  | _ => []

def get? (value : Json N) (key : String) : Option (Json N) := value.fields.lookup key

def text? : Json N → Option String
  | .string text => some text
  | _ => none

/-- The fields under other keys. -/
def without (keys : List String) : Json N → Json N
  | .object fields => .object (fields.filter fun field => !keys.contains field.1)
  | value => value

/-- Further fields behind those it has. -/
def withFields (more : List (String × Json N)) : Json N → Json N
  | .object fields => .object (fields ++ more)
  | value => value

/-! ### Values up to the order of fields -/

/-- The traversal that changes nothing. -/
def Algebra.rebuild : Algebra N (Json N) :=
  { null := .null
    bool := .bool
    number := .number
    string := .string
    array := .array
    object := .object }

/-- The fields of every object in the order of their keys. -/
def sortKeys : Json N → Json N :=
  fold { Algebra.rebuild with object := fun fields => .object (arrange fields) }

/-- The two values differ at most in the order of fields. -/
def SameValue (a b : Json N) : Prop := a.sortKeys = b.sortKeys

/-- No object has two fields of one name. -/
def distinct : Json N → Bool :=
  fold
    { null := true
      bool := fun _ => true
      number := fun _ => true
      string := fun _ => true
      array := fun items => items.all id
      object := fun fields => decide (keysOf fields).Nodup && fields.all (·.2) }

theorem sortKeys_array (items : List (Json N)) :
    (array items).sortKeys = .array (items.map sortKeys) :=
  fold_array _ items

theorem sortKeys_object (fields : List (String × Json N)) :
    (object fields).sortKeys = .object ((arrange fields).map (Prod.map id sortKeys)) := by
  rw [← arrange_map]
  exact fold_object _ fields

theorem distinct_array {items : List (Json N)} :
    (array items).distinct = true ↔ ∀ item ∈ items, item.distinct = true := by
  have heq : (array items).distinct = (items.map distinct).all id := fold_array _ items
  rw [heq, List.all_map, List.all_eq_true]
  rfl

theorem distinct_object {fields : List (String × Json N)} :
    (object fields).distinct = true ↔
      (keysOf fields).Nodup ∧ ∀ field ∈ fields, field.2.distinct = true := by
  have heq : (object fields).distinct =
      (decide (keysOf (fields.map (Prod.map id distinct))).Nodup &&
        (fields.map (Prod.map id distinct)).all (·.2)) := fold_object _ fields
  rw [heq, Bool.and_eq_true, decide_eq_true_eq, keysOf_map, List.all_map, List.all_eq_true]
  rfl

theorem without_distinct {value : Json N} (keys : List String)
    (hdistinct : value.distinct = true) : (value.without keys).distinct = true := by
  cases value with
  | object fields =>
      rw [Json.distinct_object] at hdistinct
      refine Json.distinct_object.2 ⟨?_, fun field hmem => ?_⟩
      · exact hdistinct.1.sublist (List.filter_sublist.map Prod.fst)
      · exact hdistinct.2 field (List.mem_filter.1 hmem).1
  | _ => exact hdistinct

theorem distinct_of_get? {value field : Json N} {key : String}
    (hdistinct : value.distinct = true) (hget : value.get? key = some field) :
    field.distinct = true := by
  cases value with
  | object fields =>
      exact (Json.distinct_object.1 hdistinct).2 _ (mem_of_lookup hget)
  | _ => cases hget

theorem exists_fields_of_sameValue {value : Json N} {fields' : List (String × Json N)}
    (hsame : SameValue value (.object fields')) : ∃ fields, value = .object fields := by
  rw [SameValue, sortKeys_object] at hsame
  cases value with
  | object fields => exact ⟨fields, rfl⟩
  | array items => cases (sortKeys_array items).symm.trans hsame
  | _ => cases hsame

/-- An object denotes what its keys are bound to. -/
theorem sameValue_object_iff {fields fields' : List (String × Json N)}
    (hnodup : (keysOf fields).Nodup) (hnodup' : (keysOf fields').Nodup) :
    SameValue (.object fields) (.object fields') ↔
      ∀ key, (fields.lookup key).map sortKeys = (fields'.lookup key).map sortKeys := by
  rw [SameValue, sortKeys_object, sortKeys_object, object.injEq]
  have hlookup : ∀ {l : List (String × Json N)}, (keysOf l).Nodup → ∀ key,
      ((arrange l).map (Prod.map id sortKeys)).lookup key = (l.lookup key).map sortKeys := by
    intro l hl key
    rw [lookup_map, lookup_congr ((arrange_perm l).map _ |>.nodup_iff.2 hl) (arrange_perm l)]
  constructor
  · intro heq key
    rw [← hlookup hnodup, ← hlookup hnodup', heq]
  · intro hsame
    rw [← arrange_map, ← arrange_map]
    have hl := (keysOf_map sortKeys fields).symm ▸ hnodup
    have hl' := (keysOf_map sortKeys fields').symm ▸ hnodup'
    refine arrange_congr hl ?_
    refine (List.perm_ext_iff_of_nodup (.of_map _ hl) (.of_map _ hl')).2 ?_
    rintro ⟨key, value⟩
    rw [← lookup_eq_some_iff_mem hl, ← lookup_eq_some_iff_mem hl', lookup_map, lookup_map,
      hsame key]

theorem lookup_without (fields : List (String × Json N)) (keys : List String) (key : String) :
    (fields.filter fun field => !keys.contains field.1).lookup key =
      if key ∈ keys then none else fields.lookup key := by
  split_ifs with hkey
  · apply List.lookup_eq_none_iff.2
    intro field hmem
    have hkept := (List.mem_filter.1 hmem).2
    rw [bne_iff_ne]
    rintro rfl
    simp [hkey] at hkept
  · have hkeep : (!keys.contains key) = true := by simpa using hkey
    exact @lookup_filter _ (fun key => !keys.contains key) key hkeep fields

theorem SameValue.without {a b : Json N} (hsame : SameValue a b) (ha : a.distinct = true)
    (hb : b.distinct = true) (keys : List String) :
    SameValue (a.without keys) (b.without keys) := by
  cases b with
  | object fields' =>
      obtain ⟨fields, rfl⟩ := exists_fields_of_sameValue hsame
      have hnodup := (distinct_object.1 ha).1
      have hnodup' := (distinct_object.1 hb).1
      have hfields := (sameValue_object_iff hnodup hnodup').1 hsame
      refine (sameValue_object_iff (hnodup.sublist (List.filter_sublist.map Prod.fst))
        (hnodup'.sublist (List.filter_sublist.map Prod.fst))).2 fun key => ?_
      rw [lookup_without, lookup_without]
      split_ifs
      · rfl
      · exact hfields key
  | array items =>
      cases a with
      | object fields => cases (sortKeys_object fields).symm.trans hsame
      | _ => exact hsame
  | _ =>
      cases a with
      | object fields => cases (sortKeys_object fields).symm.trans hsame
      | _ => exact hsame

end Json

end GovernedRuntime.Library
