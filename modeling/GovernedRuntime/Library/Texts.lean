/-
Texts: classes of characters, and the order in which texts are sorted, that of their UTF-16
code units.
-/
import Mathlib.Data.List.Lex
import Mathlib.Data.List.Sort

namespace GovernedRuntime.Library

/-! ### Classes of characters -/

/-- `\w` -/
def isWord (c : Char) : Bool := c.isAlphanum || c == '_'

def isBlank (c : Char) : Bool := [' ', '\t', '\n', '\r'].contains c

def isLowerHex (c : Char) : Bool := c.isDigit || ('a' ≤ c && c ≤ 'f')

/-- Lower-casing of a text that is already read as characters. -/
def lowered (text : List Char) : List Char := text.map Char.toLower

/-- A text that is there and not empty. -/
def truthy (text : Option String) : Option String := text.filter (· != "")

theorem truthy_some {text : String} (hne : text ≠ "") : truthy (some text) = some text := by
  rw [truthy, Option.filter_some, bne_iff_ne.2 hne, if_pos rfl]

/-! ### Code units -/

/-- The UTF-16 code units of a character. -/
def codeUnit (c : Char) : List Nat :=
  if c.toNat < 0x10000 then [c.toNat]
  else [0xD800 + (c.toNat - 0x10000) / 0x400, 0xDC00 + (c.toNat - 0x10000) % 0x400]

def codeUnits (text : String) : List Nat := text.toList.flatMap codeUnit

theorem toNat_bounds (c : Char) :
    c.toNat < 0xD800 ∨ 0xDFFF < c.toNat ∧ c.toNat < 0x110000 :=
  c.valid

theorem codeUnit_append_injective {c d : Char} {cs ds : List Nat}
    (heq : codeUnit c ++ cs = codeUnit d ++ ds) : c = d ∧ cs = ds := by
  have hc := toNat_bounds c
  have hd := toNat_bounds d
  unfold codeUnit at heq
  split_ifs at heq <;>
    simp only [List.cons_append, List.nil_append, List.cons.injEq] at heq
  · exact ⟨Char.toNat_inj.1 heq.1, heq.2⟩
  · omega
  · omega
  · obtain ⟨hhigh, hlow, hrest⟩ := heq
    exact ⟨Char.toNat_inj.1 (by omega), hrest⟩

theorem codeUnit_ne_nil (c : Char) : codeUnit c ≠ [] := by
  unfold codeUnit
  split_ifs <;> exact List.cons_ne_nil _ _

theorem length_le_flatMap_codeUnit (cs : List Char) :
    cs.length ≤ (cs.flatMap codeUnit).length := by
  induction cs with
  | nil => exact Nat.le_refl _
  | cons c cs ih =>
      have hunit := List.length_pos_iff.2 (codeUnit_ne_nil c)
      rw [List.flatMap_cons, List.length_append, List.length_cons]
      omega

theorem flatMap_codeUnit_injective {cs ds : List Char}
    (heq : cs.flatMap codeUnit = ds.flatMap codeUnit) : cs = ds := by
  induction cs generalizing ds with
  | nil =>
      cases ds with
      | nil => rfl
      | cons d ds => exact absurd (List.append_eq_nil_iff.1 heq.symm).1 (codeUnit_ne_nil d)
  | cons c cs ih =>
      cases ds with
      | nil => exact absurd (List.append_eq_nil_iff.1 heq).1 (codeUnit_ne_nil c)
      | cons d ds =>
          obtain ⟨hhead, htail⟩ := codeUnit_append_injective heq
          rw [hhead, ih htail]

theorem codeUnits_injective {a b : String} (heq : codeUnits a = codeUnits b) : a = b :=
  String.toList_injective (flatMap_codeUnit_injective heq)

/-! ### Sorting -/

/-- `Array.prototype.sort` on texts: by code units. -/
def textLE (a b : String) : Prop := codeUnits a ≤ codeUnits b

instance : DecidableRel textLE := fun a b => inferInstanceAs (Decidable (codeUnits a ≤ codeUnits b))

instance : Std.Total textLE := ⟨fun a b => le_total (codeUnits a) (codeUnits b)⟩

instance : IsTrans String textLE := ⟨fun _ _ _ => le_trans⟩

def sortTexts (texts : List String) : List String := texts.insertionSort textLE

theorem mem_sortTexts {texts : List String} {text : String} :
    text ∈ sortTexts texts ↔ text ∈ texts :=
  List.mem_insertionSort textLE

theorem sortTexts_perm (texts : List String) : (sortTexts texts).Perm texts :=
  List.perm_insertionSort textLE texts

/-- Items in the order of their keys do not depend on the order they come in, when no two
of them have one key. -/
theorem insertionSort_congr {α : Type} {key : α → String} {items others : List α}
    (hperm : items.Perm others)
    (hkeys : ∀ a ∈ items, ∀ b ∈ items, key a = key b → a = b) :
    items.insertionSort (fun a b => textLE (key a) (key b)) =
      others.insertionSort fun a b => textLE (key a) (key b) := by
  have : Std.Total fun a b : α => textLE (key a) (key b) :=
    ⟨fun a b => Std.Total.total (key a) (key b)⟩
  have : IsTrans α fun a b => textLE (key a) (key b) :=
    ⟨fun _ _ _ hab hbc => le_trans hab hbc⟩
  apply List.Perm.eq_of_pairwise _ (List.pairwise_insertionSort _ _)
    (List.pairwise_insertionSort _ _)
  · exact (List.perm_insertionSort _ _).trans (hperm.trans (List.perm_insertionSort _ _).symm)
  · intro a b ha hb hab hba
    rw [List.mem_insertionSort] at ha hb
    exact hkeys a ha b (hperm.mem_iff.2 hb) (codeUnits_injective (le_antisymm hab hba))

/-- The order texts come in is all that sorting forgets. -/
theorem sortTexts_eq_iff {texts others : List String} :
    sortTexts texts = sortTexts others ↔ texts.Perm others := by
  constructor
  · intro heq
    exact (sortTexts_perm texts).symm.trans (heq ▸ sortTexts_perm others)
  · intro hperm
    exact @insertionSort_congr String id texts others hperm fun _ _ _ _ heq => heq

end GovernedRuntime.Library
