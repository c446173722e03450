/-
XML content and its text: elements with their tags, character data, comments, CDATA
sections and processing instructions.
-/
import GovernedRuntime.Library.Texts
import Mathlib.Data.List.Infix

namespace GovernedRuntime.Library.Xml

abbrev Text := List Char

/-! ### Tags -/

def isNameChar (c : Char) : Bool :=
  c.isAlphanum || ['_', ':', '-', '.'].contains c || decide (0x80 ≤ c.toNat)

def isName : Text → Bool
  | [] => false
  | first :: rest =>
      isNameChar first && !(first.isDigit || first == '-' || first == '.') && rest.all isNameChar

abbrev Blanks := { text : Text // text.all isBlank = true }

def noBlanks : Blanks := ⟨[], rfl⟩

/-- An attribute as it is written; its references are not read. -/
structure Attribute where
  gap : Blanks
  name : Text
  beforeEq : Blanks
  afterEq : Blanks
  quote : Char
  value : Text
  gap_ne : gap.val ≠ []
  name_ok : isName name = true
  quote_ok : quote = '"' ∨ quote = '\''
  value_ok : '<' ∉ value ∧ quote ∉ value

def Attribute.render (a : Attribute) : Text :=
  a.gap.val ++ (a.name ++ (a.beforeEq.val ++
    '=' :: (a.afterEq.val ++ a.quote :: (a.value ++ [a.quote]))))

structure Tag where
  name : Text
  attributes : List Attribute
  trailing : Blanks
  name_ok : isName name = true
  distinct : (attributes.map (·.name)).Nodup

/-- What stands in a tag behind its name. -/
def Tag.inner (tag : Tag) : Text := tag.attributes.flatMap (·.render) ++ tag.trailing.val

def Tag.value? (tag : Tag) (key : Text) : Option Text :=
  (tag.attributes.find? (·.name == key)).map (·.value)

def Tag.renderOpen (tag : Tag) : Text := '<' :: (tag.name ++ (tag.inner ++ ['>']))

def Tag.renderEmpty (tag : Tag) : Text := '<' :: (tag.name ++ (tag.inner ++ ['/', '>']))

def Tag.renderClose (tag : Tag) (closing : Blanks) : Text :=
  '<' :: '/' :: (tag.name ++ (closing.val ++ ['>']))

/-! ### Content -/

/-- What is no element. -/
inductive Misc
  | text (chars : Text) (clean : '<' ∉ chars)
  | comment (chars : Text) (clean : ¬ ['-', '-'] <:+: chars ++ ['-'])
  | cdata (chars : Text) (clean : ¬ [']', ']', '>'] <:+: chars)
  /-- The declaration of a document is one of these. -/
  | instruction (chars : Text) (clean : ¬ ['?', '>'] <:+: chars)

def Misc.render : Misc → Text
  | .text chars _ => chars
  | .comment chars _ => ['<', '!', '-', '-'] ++ (chars ++ ['-', '-', '>'])
  | .cdata chars _ => ['<', '!', '[', 'C', 'D', 'A', 'T', 'A', '['] ++ (chars ++ [']', ']', '>'])
  | .instruction chars _ => ['<', '?'] ++ (chars ++ ['?', '>'])

/-- The content of an element or of a document: what stands first, and what follows it. -/
inductive Content
  | nil
  | misc (item : Misc) (rest : Content)
  | empty (tag : Tag) (rest : Content)
  | element (tag : Tag) (closing : Blanks) (body rest : Content)

namespace Content

def render : Content → Text
  | nil => []
  | misc item rest => item.render ++ rest.render
  | empty tag rest => tag.renderEmpty ++ rest.render
  | element tag closing body rest =>
      tag.renderOpen ++ (body.render ++ (tag.renderClose closing ++ rest.render))

/-- The elements of a name with their content, in document order. -/
def elementsNamed (name : Text) : Content → List (Tag × Content)
  | nil => []
  | misc _ rest => rest.elementsNamed name
  | empty tag rest => (if tag.name = name then [(tag, nil)] else []) ++ rest.elementsNamed name
  | element tag _ body rest =>
      (if tag.name = name then [(tag, body)] else []) ++
        (body.elementsNamed name ++ rest.elementsNamed name)

/-- The names of the child elements. -/
def childNames : Content → List Text
  | nil => []
  | misc _ rest => rest.childNames
  | empty tag rest => tag.name :: rest.childNames
  | element tag _ _ rest => tag.name :: rest.childNames

end Content

/-! ### Characters of names and tags -/

theorem isNameChar_of_mem {name : Text} (hname : isName name = true) {c : Char}
    (hmem : c ∈ name) : isNameChar c = true := by
  cases name with
  | nil => cases hmem
  | cons first rest =>
      simp only [isName, Bool.and_eq_true, List.all_eq_true] at hname
      rcases List.mem_cons.1 hmem with rfl | hrest
      · exact hname.1.1
      · exact hname.2 c hrest

theorem notMem_name {name : Text} (hname : isName name = true) {c : Char}
    (hc : isNameChar c = false) : c ∉ name := by
  intro hmem
  rw [isNameChar_of_mem hname hmem] at hc
  cases hc

theorem notMem_blanks (blanks : Blanks) {c : Char} (hc : isBlank c = false) :
    c ∉ blanks.val := by
  intro hmem
  rw [List.all_eq_true.1 blanks.2 c hmem] at hc
  cases hc

theorem Attribute.notMem_render (a : Attribute) {c : Char} (hname : isNameChar c = false)
    (hblank : isBlank c = false) (heq : c ≠ '=') (hquote : c ≠ a.quote)
    (hvalue : c ∉ a.value) : c ∉ a.render := by
  simp only [render, List.mem_append, List.mem_cons, List.not_mem_nil, or_false, not_or]
  exact ⟨notMem_blanks a.gap hblank, notMem_name a.name_ok hname, notMem_blanks a.beforeEq hblank,
    heq, notMem_blanks a.afterEq hblank, hquote, hvalue, hquote⟩

theorem Attribute.quote_ne (a : Attribute) {c : Char} (hdouble : c ≠ '"') (hsingle : c ≠ '\'') :
    c ≠ a.quote := by
  rcases a.quote_ok with hquote | hquote <;> simp [hquote, hdouble, hsingle]

theorem Tag.lt_notMem_inner (tag : Tag) : '<' ∉ tag.inner := by
  rw [inner, List.mem_append, not_or, List.mem_flatMap]
  constructor
  · rintro ⟨a, -, hmem⟩
    exact a.notMem_render rfl rfl (by decide) (a.quote_ne (by decide) (by decide))
      a.value_ok.1 hmem
  · exact notMem_blanks tag.trailing rfl

/-- A tag goes on behind its name with a blank, if it goes on. -/
theorem Tag.head_inner (tag : Tag) {c : Char} (hhead : tag.inner.head? = some c) :
    isBlank c = true := by
  rw [inner] at hhead
  cases hattributes : tag.attributes with
  | nil =>
      rw [hattributes] at hhead
      exact List.all_eq_true.1 tag.trailing.2 c (List.mem_of_mem_head? (by simpa using hhead))
  | cons a rest =>
      obtain ⟨first, more, hgap⟩ := List.exists_cons_of_ne_nil a.gap_ne
      rw [hattributes, List.flatMap_cons, Attribute.render, hgap] at hhead
      obtain rfl : first = c := by simpa using hhead
      exact List.all_eq_true.1 a.gap.2 first (hgap ▸ List.mem_cons_self)

/-! ### Closed texts -/

/-- Every `<` is followed by a `>`. -/
def Closed (piece : Text) : Prop :=
  ∀ before rest, piece = before ++ '<' :: rest → '>' ∈ rest

theorem closed_of_notMem {piece : Text} (hclean : '<' ∉ piece) : Closed piece := by
  rintro before rest rfl
  simp at hclean

theorem closed_concat (piece : Text) : Closed (piece ++ ['>']) := by
  intro before rest heq
  obtain rfl | ⟨rest, last, rfl⟩ := List.eq_nil_or_concat' rest
  · have hlast := (List.append_inj' heq rfl).2
    cases hlast
  · have hends : piece ++ ['>'] = (before ++ '<' :: rest) ++ [last] := by simpa using heq
    have hlast := (List.append_inj' hends rfl).2
    exact List.mem_append_right _ (hlast ▸ List.mem_singleton_self _)

theorem Closed.append {piece next : Text} (hpiece : Closed piece) (hnext : Closed next) :
    Closed (piece ++ next) := by
  intro before rest heq
  obtain ⟨more, hmore, hrest⟩ | ⟨more, hmore, hrest⟩ := List.append_eq_append_iff.1 heq
  · exact hnext more rest hrest
  · cases more with
    | nil => exact hnext [] rest (by simpa using hrest.symm)
    | cons c more =>
        obtain ⟨rfl, rfl⟩ := List.cons.inj hrest
        exact List.mem_append_left _ (hpiece before more hmore)

theorem Closed.tail {c : Char} {piece : Text} (hclosed : Closed (c :: piece)) : Closed piece := by
  rintro before rest rfl
  exact hclosed (c :: before) rest rfl

theorem Closed.gt_mem {piece : Text} (hclosed : Closed ('<' :: piece)) : '>' ∈ piece :=
  hclosed [] piece rfl

theorem Misc.closed_render (item : Misc) : Closed item.render := by
  cases item with
  | text chars clean => exact closed_of_notMem clean
  | comment chars clean =>
      have hclosed := closed_concat (['<', '!', '-', '-'] ++ (chars ++ ['-', '-']))
      simpa [render] using hclosed
  | cdata chars clean =>
      have hclosed := closed_concat
        (['<', '!', '[', 'C', 'D', 'A', 'T', 'A', '['] ++ (chars ++ [']', ']']))
      simpa [render] using hclosed
  | instruction chars clean =>
      have hclosed := closed_concat (['<', '?'] ++ (chars ++ ['?']))
      simpa [render] using hclosed

theorem Tag.closed_renderOpen (tag : Tag) : Closed tag.renderOpen := by
  have hclosed := closed_concat ('<' :: (tag.name ++ tag.inner))
  simpa [renderOpen] using hclosed

theorem Tag.closed_renderEmpty (tag : Tag) : Closed tag.renderEmpty := by
  have hclosed := closed_concat ('<' :: (tag.name ++ (tag.inner ++ ['/'])))
  simpa [renderEmpty] using hclosed

theorem Tag.closed_renderClose (tag : Tag) (closing : Blanks) :
    Closed (tag.renderClose closing) := by
  have hclosed := closed_concat ('<' :: '/' :: (tag.name ++ closing.val))
  simpa [renderClose] using hclosed

theorem Content.closed_render : ∀ content : Content, Closed content.render
  | nil => closed_of_notMem List.not_mem_nil
  | misc item rest => item.closed_render.append rest.closed_render
  | empty tag rest => tag.closed_renderEmpty.append rest.closed_render
  | element tag closing body rest =>
      tag.closed_renderOpen.append (body.closed_render.append
        ((tag.closed_renderClose closing).append rest.closed_render))

end GovernedRuntime.Library.Xml
