/-
JSON texts: printing a value token by token, and reading a text back with two
machines that take one step for each character and one for each token.
-/
import GovernedRuntime.Library.Json
import GovernedRuntime.Library.Schedule
import Mathlib.Data.List.Chain
import Mathlib.Data.List.Flatten

namespace GovernedRuntime.Library

variable {N : Type} [JsonNumber N]

inductive JsonToken (N : Type) where
  | openObject
  | closeObject
  | openArray
  | closeArray
  | comma
  | colon
  | null
  | bool (value : Bool)
  | number (value : N)
  | text (value : String)
deriving Repr

/-! ### Printing -/

/-- The characters with a two-character escape, and what stands for each. -/
def shortEscapes : List (Char × Char) :=
  [('"', '"'), ('\\', '\\'), (Char.ofNat 8, 'b'), (Char.ofNat 12, 'f'), ('\n', 'n'),
    ('\r', 'r'), ('\t', 't')]

def escapeChar (c : Char) : List Char :=
  match shortEscapes.lookup c with
  | some mark => ['\\', mark]
  | none =>
      if c.toNat < 0x20 then
        ['\\', 'u', '0', '0', Nat.digitChar (c.toNat / 16), Nat.digitChar (c.toNat % 16)]
      else [c]

def quote (text : String) : List Char :=
  '"' :: (text.toList.flatMap escapeChar ++ ['"'])

def JsonToken.chars : JsonToken N → List Char
  | .openObject => ['{']
  | .closeObject => ['}']
  | .openArray => ['[']
  | .closeArray => [']']
  | .comma => [',']
  | .colon => [':']
  | .null => "null".toList
  | .bool true => "true".toList
  | .bool false => "false".toList
  | .number value => ((JsonNumber.numeral value).getD "null").toList
  | .text value => quote value

/-- Pieces with a comma between any two. -/
def commaJoin : List (List (JsonToken N)) → List (JsonToken N)
  | [] => []
  | first :: rest => first ++ rest.flatMap (.comma :: ·)

namespace Json

/-- The tokens a value prints as: a number that is not finite prints as `null`. -/
def tokens : Json N → List (JsonToken N) :=
  fold
    { null := [.null]
      bool := fun value => [.bool value]
      number := fun value =>
        if (JsonNumber.numeral value).isSome then [.number value] else [.null]
      string := fun value => [.text value]
      array := fun items => .openArray :: (commaJoin items ++ [.closeArray])
      object := fun fields =>
        .openObject ::
          (commaJoin (fields.map fun field => .text field.1 :: .colon :: field.2) ++
            [.closeObject]) }

/-- `JSON.stringify` without indentation. -/
def stringify (value : Json N) : String :=
  String.ofList (value.tokens.flatMap JsonToken.chars)

/-- What is left of a value when it is printed. -/
def printed : Json N → Json N :=
  fold { Algebra.rebuild with
    number := fun value =>
      if (JsonNumber.numeral value).isSome then .number value else .null }

end Json

/-! ### Characters to tokens -/

/-- The characters of literals and numerals. -/
def isWordChar (c : Char) : Bool := c.isAlphanum || ['+', '-', '.'].contains c

def punctuation : Char → Option (JsonToken N)
  | '{' => some .openObject
  | '}' => some .closeObject
  | '[' => some .openArray
  | ']' => some .closeArray
  | ',' => some .comma
  | ':' => some .colon
  | _ => none

def wordToken (chars : List Char) : Option (JsonToken N) :=
  if chars = "null".toList then some .null
  else if chars = "true".toList then some (.bool true)
  else if chars = "false".toList then some (.bool false)
  else if isNumeral chars then some (.number (JsonNumber.ofNumeral (String.ofList chars)))
  else none

/-- What the lexer is in the middle of. -/
inductive Reading where
  | between
  | word (chars : List Char)
  | string (chars : List Char)
  /-- After a backslash, with a high surrogate that waits for its other half. -/
  | escape (chars : List Char) (high : Option Nat)
  /-- After `\u` and some of its four digits. -/
  | unicode (chars : List Char) (high : Option Nat) (count value : Nat)
  | paired (chars : List Char) (high : Nat)
deriving DecidableEq, Repr

structure Lexer (N : Type) where
  done : List (JsonToken N)
  reading : Reading

def hexValue (c : Char) : Option Nat :=
  if c.isDigit then some (c.toNat - 48)
  else if 'a' ≤ c && c ≤ 'f' then some (c.toNat - 87)
  else if 'A' ≤ c && c ≤ 'F' then some (c.toNat - 55)
  else none

def isHighSurrogate (unit : Nat) : Bool := 0xD800 ≤ unit && unit < 0xDC00

def isLowSurrogate (unit : Nat) : Bool := 0xDC00 ≤ unit && unit < 0xE000

/-- The end of a `\u` escape.  Half of a surrogate pair is not a character. -/
def readCodeUnit (chars : List Char) (high : Option Nat) (unit : Nat) : Option Reading :=
  match high with
  | some first =>
      if isLowSurrogate unit then
        some (.string (chars ++
          [Char.ofNat (0x10000 + (first - 0xD800) * 0x400 + (unit - 0xDC00))]))
      else none
  | none =>
      if isHighSurrogate unit then some (.paired chars unit)
      else if isLowSurrogate unit then none
      else some (.string (chars ++ [Char.ofNat unit]))

/-- The character a short escape stands for. -/
def readEscape (mark : Char) : Option Char :=
  if mark = '/' then some '/'
  else (shortEscapes.find? (·.2 == mark)).map Prod.fst

namespace Lexer

def start (done : List (JsonToken N)) (c : Char) : Option (Lexer N) :=
  if isBlank c then some ⟨done, .between⟩
  else if c = '"' then some ⟨done, .string []⟩
  else
    match punctuation c with
    | some token => some ⟨done ++ [token], .between⟩
    | none => if isWordChar c then some ⟨done, .word [c]⟩ else none

/-- The tokens read, when the text may end or go on with another token here. -/
def settle : Lexer N → Option (List (JsonToken N))
  | ⟨done, .between⟩ => some done
  | ⟨done, .word chars⟩ => (wordToken chars).map fun token => done ++ [token]
  | _ => none

def step (lexer : Lexer N) (c : Char) : Option (Lexer N) :=
  match lexer.reading with
  | .between => start lexer.done c
  | .word chars =>
      if isWordChar c then some ⟨lexer.done, .word (chars ++ [c])⟩
      else lexer.settle.bind (start · c)
  | .string chars =>
      if c = '"' then some ⟨lexer.done ++ [.text (String.ofList chars)], .between⟩
      else if c = '\\' then some ⟨lexer.done, .escape chars none⟩
      else if c.toNat < 0x20 then none
      else some ⟨lexer.done, .string (chars ++ [c])⟩
  | .escape chars none =>
      if c = 'u' then some ⟨lexer.done, .unicode chars none 0 0⟩
      else (readEscape c).map fun plain => ⟨lexer.done, .string (chars ++ [plain])⟩
  | .escape chars (some high) =>
      if c = 'u' then some ⟨lexer.done, .unicode chars (some high) 0 0⟩ else none
  | .unicode chars high count value =>
      (hexValue c).bind fun digit =>
        if count = 3 then
          (readCodeUnit chars high (16 * value + digit)).map fun reading =>
            ⟨lexer.done, reading⟩
        else some ⟨lexer.done, .unicode chars high (count + 1) (16 * value + digit)⟩
  | .paired chars high =>
      if c = '\\' then some ⟨lexer.done, .escape chars (some high)⟩ else none

def initial : Lexer N := ⟨[], .between⟩

end Lexer

def lex (text : List Char) : Option (List (JsonToken N)) :=
  (runSchedule Lexer.step .initial text).bind Lexer.settle

/-! ### Tokens to values -/

/-- An array or an object that is not closed yet. -/
inductive Frame (N : Type) where
  | array (items : List (Json N))
  | object (fields : List (String × Json N)) (key : String)

/-- What the parser expects next. -/
inductive Expected (N : Type) where
  | value
  | firstItem
  | firstKey
  | key (fields : List (String × Json N))
  | colon (fields : List (String × Json N)) (key : String)
  /-- A comma, a closing bracket, or the end of the text. -/
  | after (value : Json N)

structure Parser (N : Type) where
  stack : List (Frame N)
  expected : Expected N

/-- A second field of one name replaces the value of the first. -/
def setField (fields : List (String × Json N)) (key : String) (value : Json N) :
    List (String × Json N) :=
  if key ∈ keysOf fields then
    fields.map fun field => if field.1 = key then (key, value) else field
  else fields ++ [(key, value)]

namespace Parser

def start (stack : List (Frame N)) : JsonToken N → Option (Parser N)
  | .null => some ⟨stack, .after .null⟩
  | .bool value => some ⟨stack, .after (.bool value)⟩
  | .number value => some ⟨stack, .after (.number value)⟩
  | .text value => some ⟨stack, .after (.string value)⟩
  | .openArray => some ⟨.array [] :: stack, .firstItem⟩
  | .openObject => some ⟨stack, .firstKey⟩
  | _ => none

def step : Parser N → JsonToken N → Option (Parser N)
  | ⟨stack, .value⟩, token => start stack token
  | ⟨.array items :: stack, .firstItem⟩, .closeArray =>
      some ⟨stack, .after (.array items)⟩
  | ⟨stack, .firstItem⟩, token => start stack token
  | ⟨stack, .firstKey⟩, .closeObject => some ⟨stack, .after (.object [])⟩
  | ⟨stack, .firstKey⟩, .text key => some ⟨stack, .colon [] key⟩
  | ⟨stack, .key fields⟩, .text key => some ⟨stack, .colon fields key⟩
  | ⟨stack, .colon fields key⟩, .colon => some ⟨.object fields key :: stack, .value⟩
  | ⟨.array items :: stack, .after value⟩, .comma =>
      some ⟨.array (items ++ [value]) :: stack, .value⟩
  | ⟨.array items :: stack, .after value⟩, .closeArray =>
      some ⟨stack, .after (.array (items ++ [value]))⟩
  | ⟨.object fields key :: stack, .after value⟩, .comma =>
      some ⟨stack, .key (setField fields key value)⟩
  | ⟨.object fields key :: stack, .after value⟩, .closeObject =>
      some ⟨stack, .after (.object (setField fields key value))⟩
  | _, _ => none

def initial : Parser N := ⟨[], .value⟩

/-- The value of a text that ends here. -/
def result : Parser N → Option (Json N)
  | ⟨[], .after value⟩ => some value
  | _ => none

end Parser

def parseTokens (tokens : List (JsonToken N)) : Option (Json N) :=
  (runSchedule Parser.step .initial tokens).bind Parser.result

/-- `JSON.parse`; `none` when it throws. -/
def Json.parse (text : String) : Option (Json N) :=
  (lex text.toList).bind parseTokens

/-! ### Printed values read back -/

/-- The tokens that run on until another character comes. -/
def JsonToken.isWord : JsonToken N → Bool
  | .null => true
  | .bool _ => true
  | .number _ => true
  | _ => false

/-- A number with a numeral, or another token. -/
def JsonToken.isPrintable : JsonToken N → Bool
  | .number value => (JsonNumber.numeral value).isSome
  | _ => true

namespace Lexer

/-- A character that no word goes on with is read from where the word ended. -/
theorem step_of_settle {lexer : Lexer N} {done : List (JsonToken N)} {c : Char}
    (hsettle : lexer.settle = some done) (hword : isWordChar c = false) :
    lexer.step c = start done c := by
  obtain ⟨prior, _ | chars | _ | _ | _ | _⟩ := lexer
  · cases hsettle
    rfl
  · rw [step]
    dsimp only
    rw [hword, hsettle]
    rfl
  all_goals cases hsettle

theorem shortEscapes_readEscape :
    ∀ pair ∈ shortEscapes, readEscape pair.2 = some pair.1 ∧ pair.2 ≠ 'u' := by
  decide

theorem hexValue_digitChar : ∀ digit < 16, hexValue (Nat.digitChar digit) = some digit := by
  decide

theorem run_escapeChar (done : List (JsonToken N)) (chars : List Char) (c : Char) :
    runSchedule step ⟨done, .string chars⟩ (escapeChar c) =
      some ⟨done, .string (chars ++ [c])⟩ := by
  unfold escapeChar
  split
  case h_1 mark hmark =>
    obtain ⟨_, heq⟩ := List.lookup_eq_some_iff.1 hmark
    have hmem : (c, mark) ∈ shortEscapes := by
      obtain ⟨_, hsplit, _⟩ := heq
      rw [hsplit]
      simp
    obtain ⟨hread, hu⟩ := shortEscapes_readEscape _ hmem
    simp [runSchedule, step, hread, hu]
  case h_2 hnone =>
    split_ifs with hcontrol
    · have hhigh := hexValue_digitChar (c.toNat / 16) (by omega)
      have hlow := hexValue_digitChar (c.toNat % 16) (by omega)
      have hvalue : 16 * (c.toNat / 16) + c.toNat % 16 = c.toNat := Nat.div_add_mod _ _
      have hzero : hexValue '0' = some 0 := by decide
      have hsurrogate : readCodeUnit chars none c.toNat = some (.string (chars ++ [c])) := by
        have hnot : ¬ 0xD800 ≤ c.toNat := by omega
        have hnot' : ¬ 0xDC00 ≤ c.toNat := by omega
        simp [readCodeUnit, isHighSurrogate, isLowSurrogate, hnot, hnot']
      simp [runSchedule, step, hhigh, hlow, hzero, hvalue, hsurrogate]
    · have hquote : c ≠ '"' := by
        rintro rfl
        cases hnone
      have hslash : c ≠ '\\' := by
        rintro rfl
        cases hnone
      simp [runSchedule, step, hquote, hslash]
      omega

theorem run_string (done : List (JsonToken N)) (chars text : List Char) :
    runSchedule step ⟨done, .string chars⟩ (text.flatMap escapeChar) =
      some ⟨done, .string (chars ++ text)⟩ := by
  induction text generalizing chars with
  | nil => rw [List.append_nil]; rfl
  | cons c rest ih =>
      rw [List.flatMap_cons, runSchedule_append, run_escapeChar, Option.bind_some, ih,
        List.append_assoc]
      rfl

theorem isWordChar_of_isDigit {c : Char} (hdigit : c.isDigit = true) :
    isWordChar c = true := by
  rw [isWordChar, Char.isAlphanum, hdigit, Bool.or_true, Bool.true_or]

theorem all_isWordChar_of_isDigit {digits : List Char} (hdigits : digits.all Char.isDigit = true) :
    digits.all isWordChar = true := by
  rw [List.all_eq_true] at hdigits ⊢
  exact fun c hc => isWordChar_of_isDigit (hdigits c hc)

theorem all_isWordChar_of_isDigits {digits : List Char} (hdigits : isDigits digits = true) :
    digits.all isWordChar = true :=
  all_isWordChar_of_isDigit (Bool.and_eq_true_iff.1 hdigits).2

theorem all_isWordChar_of_isWholePart {digits : List Char} (hwhole : isWholePart digits = true) :
    digits.all isWordChar = true := by
  unfold isWholePart at hwhole
  split at hwhole
  · rfl
  · rw [Bool.and_eq_true, Bool.and_eq_true] at hwhole
    exact Bool.and_eq_true_iff.2
      ⟨isWordChar_of_isDigit hwhole.1.1, all_isWordChar_of_isDigit hwhole.2⟩
  · cases hwhole

theorem all_isWordChar_of_isFraction {digits : List Char} (hfraction : isFraction digits = true) :
    digits.all isWordChar = true := by
  unfold isFraction at hfraction
  split at hfraction
  · rfl
  · exact Bool.and_eq_true_iff.2 ⟨rfl, all_isWordChar_of_isDigits hfraction⟩
  · cases hfraction

/-- What follows the mark of an exponent is a sign and digits. -/
theorem all_tail_isWordChar_of_isExponent {digits : List Char}
    (hexponent : isExponent digits = true) : digits.tail.all isWordChar = true := by
  unfold isExponent at hexponent
  split at hexponent
  · rfl
  · exact Bool.and_eq_true_iff.2 ⟨rfl, all_isWordChar_of_isDigits hexponent⟩
  · exact Bool.and_eq_true_iff.2 ⟨rfl, all_isWordChar_of_isDigits hexponent⟩
  · exact all_isWordChar_of_isDigits hexponent

theorem all_isWordChar_dropWhile_exponent {text : List Char}
    (hexponent : isExponent (text.dropWhile (!isExponentMark ·)) = true) :
    (text.dropWhile (!isExponentMark ·)).all isWordChar = true := by
  have htail := all_tail_isWordChar_of_isExponent hexponent
  cases hrest : text.dropWhile (!isExponentMark ·) with
  | nil => rfl
  | cons mark rest =>
      have hmark := List.head?_dropWhile_not (!isExponentMark ·) text
      rw [hrest] at htail hmark
      simp only [List.head?_cons, Bool.not_eq_false', isExponentMark, Bool.or_eq_true,
        beq_iff_eq] at hmark
      refine Bool.and_eq_true_iff.2 ⟨?_, htail⟩
      rcases hmark with rfl | rfl <;> rfl

theorem all_isWordChar_of_isNumeral {text : List Char} (hnumeral : isNumeral text = true) :
    text.all isWordChar = true := by
  have hunsigned : ∀ unsigned : List Char,
      isWholePart ((unsigned.takeWhile (!isExponentMark ·)).takeWhile (· != '.')) = true →
      isFraction ((unsigned.takeWhile (!isExponentMark ·)).dropWhile (· != '.')) = true →
      isExponent (unsigned.dropWhile (!isExponentMark ·)) = true →
      unsigned.all isWordChar = true := by
    intro unsigned hwhole hfraction hexponent
    rw [← List.takeWhile_append_dropWhile (p := (!isExponentMark ·)) (l := unsigned),
      List.all_append, Bool.and_eq_true]
    refine ⟨?_, all_isWordChar_dropWhile_exponent hexponent⟩
    rw [← List.takeWhile_append_dropWhile (p := (· != '.'))
      (l := unsigned.takeWhile (!isExponentMark ·)), List.all_append, Bool.and_eq_true]
    exact ⟨all_isWordChar_of_isWholePart hwhole, all_isWordChar_of_isFraction hfraction⟩
  unfold isNumeral at hnumeral
  simp only [Bool.and_eq_true] at hnumeral
  have hrest := hunsigned _ hnumeral.1.1 hnumeral.1.2 hnumeral.2
  split_ifs at hrest with hsign
  · cases text with
    | nil => rfl
    | cons c rest =>
        rw [List.head?_cons, beq_iff_eq, Option.some_inj] at hsign
        subst hsign
        exact Bool.and_eq_true_iff.2 ⟨rfl, hrest⟩
  · exact hrest

theorem isNumeral_ne_nil {text : List Char} (hnumeral : isNumeral text = true) : text ≠ [] := by
  rintro rfl
  cases hnumeral

theorem run_word (done : List (JsonToken N)) (chars text : List Char)
    (htext : text.all isWordChar = true) :
    runSchedule step ⟨done, .word chars⟩ text = some ⟨done, .word (chars ++ text)⟩ := by
  induction text generalizing chars with
  | nil => rw [List.append_nil]; rfl
  | cons c rest ih =>
      rw [List.all_cons, Bool.and_eq_true] at htext
      have hstep : step (N := N) ⟨done, .word chars⟩ c = some ⟨done, .word (chars ++ [c])⟩ := by
        rw [step]
        exact if_pos htext.1
      rw [runSchedule, hstep, Option.bind_some, ih _ htext.2, List.append_assoc]
      rfl

omit [JsonNumber N] in
theorem isWordChar_ne {c : Char} (hword : isWordChar c = true) :
    isBlank c = false ∧ c ≠ '"' ∧ punctuation (N := N) c = none := by
  refine ⟨?_, ?_, ?_⟩
  · by_contra hspace
    rw [Bool.not_eq_false, isBlank, List.contains_iff_mem] at hspace
    revert hword
    simp only [List.mem_cons, List.not_mem_nil, or_false] at hspace
    rcases hspace with rfl | rfl | rfl | rfl <;> decide
  · rintro rfl
    revert hword
    decide
  · unfold punctuation
    split <;> first | rfl | exact absurd hword (by decide)

theorem run_between_word (done : List (JsonToken N)) {text : List Char}
    (htext : text.all isWordChar = true) (hne : text ≠ []) :
    runSchedule step ⟨done, .between⟩ text = some ⟨done, .word text⟩ := by
  cases text with
  | nil => exact absurd rfl hne
  | cons c rest =>
      rw [List.all_cons, Bool.and_eq_true] at htext
      obtain ⟨hspace, hquote, hpunctuation⟩ := isWordChar_ne (N := N) htext.1
      have hstart : start done c = some ⟨done, .word [c]⟩ := by
        rw [start, hspace, hpunctuation]
        simp [hquote, htext.1]
      have hstep : step (N := N) ⟨done, .between⟩ c = start done c := rfl
      rw [runSchedule, hstep, hstart, Option.bind_some, run_word _ _ _ htext.2]
      rfl

theorem wordToken_of_isNumeral {text : List Char} (hnumeral : isNumeral text = true) :
    wordToken (N := N) text = some (.number (JsonNumber.ofNumeral (String.ofList text))) := by
  have hnull : text ≠ "null".toList := by
    rintro rfl
    revert hnumeral
    decide
  have htrue : text ≠ "true".toList := by
    rintro rfl
    revert hnumeral
    decide
  have hfalse : text ≠ "false".toList := by
    rintro rfl
    revert hnumeral
    decide
  rw [wordToken, if_neg hnull, if_neg htrue, if_neg hfalse, if_pos hnumeral]

/-- What a word prints as reads back as the word. -/
theorem wordToken_chars {token : JsonToken N} (hword : token.isWord = true)
    (hprintable : token.isPrintable = true) :
    wordToken token.chars = some token ∧ token.chars.all isWordChar = true ∧
      token.chars ≠ [] := by
  cases token with
  | null => exact ⟨rfl, rfl, List.cons_ne_nil _ _⟩
  | bool value => cases value <;> exact ⟨rfl, rfl, List.cons_ne_nil _ _⟩
  | number value =>
      obtain ⟨text, htext⟩ := Option.isSome_iff_exists.1 hprintable
      have hnumeral := JsonNumber.isNumeral_numeral htext
      have hchars : (JsonToken.number value).chars = text.toList := by
        rw [JsonToken.chars, htext, Option.getD_some]
      rw [hchars, wordToken_of_isNumeral hnumeral, String.ofList_toList,
        JsonNumber.ofNumeral_numeral htext]
      exact ⟨rfl, all_isWordChar_of_isNumeral hnumeral, isNumeral_ne_nil hnumeral⟩
  | _ => cases hword

/-- The other tokens are read to their end, wherever a token may begin. -/
theorem run_chars {lexer : Lexer N} {done : List (JsonToken N)} {token : JsonToken N}
    (hsettle : lexer.settle = some done) (hword : token.isWord = false) :
    runSchedule step lexer token.chars = some ⟨done ++ [token], .between⟩ := by
  cases token with
  | text value =>
      have hstart : lexer.step '"' = some ⟨done, .string []⟩ :=
        step_of_settle hsettle rfl
      rw [JsonToken.chars, quote, runSchedule, hstart, Option.bind_some, runSchedule_append,
        run_string, Option.bind_some, List.nil_append]
      have hend : step (N := N) ⟨done, .string value.toList⟩ '"' =
          some ⟨done ++ [.text (String.ofList value.toList)], .between⟩ := rfl
      rw [runSchedule, hend, String.ofList_toList]
      rfl
  | null => cases hword
  | bool value => cases hword
  | number value => cases hword
  | _ => exact congrArg (Option.bind · some) (step_of_settle hsettle rfl)

/-- Tokens that are printed one after another, no two words side by side. -/
def Separated (tokens : List (JsonToken N)) : Prop :=
  tokens.IsChain fun a b => a.isWord = false ∨ b.isWord = false

theorem run_tokens {tokens : List (JsonToken N)} (hseparated : Separated tokens)
    (hprintable : ∀ token ∈ tokens, token.isPrintable = true) {lexer : Lexer N}
    {done : List (JsonToken N)} (hsettle : lexer.settle = some done)
    (hready : lexer = ⟨done, .between⟩ ∨ ∀ token ∈ tokens.head?, token.isWord = false) :
    ∃ last, runSchedule step lexer (tokens.flatMap JsonToken.chars) = some last ∧
      last.settle = some (done ++ tokens) := by
  induction tokens generalizing lexer done with
  | nil => exact ⟨lexer, rfl, by rw [hsettle, List.append_nil]⟩
  | cons token rest ih =>
      rw [List.flatMap_cons, runSchedule_append]
      obtain ⟨hnext, hseparated⟩ := List.isChain_cons.1 hseparated
      rw [List.forall_mem_cons] at hprintable
      have hassoc : done ++ token :: rest = done ++ [token] ++ rest := by
        rw [List.append_assoc]
        rfl
      rw [hassoc]
      cases hword : token.isWord with
      | false =>
          rw [run_chars hsettle hword, Option.bind_some]
          exact ih hseparated hprintable.2 rfl (.inl rfl)
      | true =>
          obtain ⟨htoken, hchars, hne⟩ := wordToken_chars hword hprintable.1
          have hlexer : lexer = ⟨done, .between⟩ := by
            refine hready.resolve_right fun hhead => ?_
            rw [hhead token rfl] at hword
            cases hword
          rw [hlexer, run_between_word done hchars hne, Option.bind_some]
          refine ih hseparated hprintable.2 ?_ (.inr ?_)
          · rw [settle, htoken]
            rfl
          · intro next hhead
            refine (hnext next hhead).resolve_left ?_
            rw [hword]
            decide

end Lexer

/-- Printed tokens read back. -/
theorem lex_chars {tokens : List (JsonToken N)} (hseparated : Lexer.Separated tokens)
    (hprintable : ∀ token ∈ tokens, token.isPrintable = true) :
    lex (tokens.flatMap JsonToken.chars) = some tokens := by
  obtain ⟨last, hrun, hsettle⟩ :=
    Lexer.run_tokens hseparated hprintable (rfl : Lexer.initial.settle = some []) (.inl rfl)
  rw [lex, hrun]
  exact hsettle

namespace Json

theorem tokens_array (items : List (Json N)) :
    (array items).tokens = .openArray :: (commaJoin (items.map tokens) ++ [.closeArray]) :=
  fold_array _ items

theorem tokens_object (fields : List (String × Json N)) :
    (object fields).tokens =
      .openObject ::
        (commaJoin (fields.map fun field => .text field.1 :: .colon :: field.2.tokens) ++
          [.closeObject]) := by
  have heq : (object fields).tokens =
      .openObject ::
        (commaJoin ((fields.map (Prod.map id tokens)).map fun field =>
          .text field.1 :: .colon :: field.2) ++ [.closeObject]) := fold_object _ fields
  rw [heq, List.map_map]
  rfl

/-- A run of tokens that may stand between any two punctuation marks. -/
def Printable (tokens : List (JsonToken N)) : Prop :=
  Lexer.Separated tokens ∧ ∀ token ∈ tokens, token.isPrintable = true

theorem Printable.append {first second : List (JsonToken N)} {mark : JsonToken N}
    (hfirst : Printable first) (hsecond : Printable second) (hmark : mark.isWord = false)
    (hprintable : mark.isPrintable = true) : Printable (first ++ mark :: second) := by
  refine ⟨List.isChain_append.2 ⟨hfirst.1, ?_, ?_⟩, ?_⟩
  · exact List.isChain_cons.2 ⟨fun _ _ => .inl hmark, hsecond.1⟩
  · rintro _ _ _ hhead
    cases hhead
    exact .inr hmark
  · intro token hmem
    rcases List.mem_append.1 hmem with hmem | hmem
    · exact hfirst.2 token hmem
    · rcases List.mem_cons.1 hmem with rfl | hmem
      · exact hprintable
      · exact hsecond.2 token hmem

theorem Printable.nil : Printable ([] : List (JsonToken N)) :=
  ⟨List.isChain_nil, fun _ hmem => absurd hmem List.not_mem_nil⟩

theorem Printable.singleton {token : JsonToken N} (hprintable : token.isPrintable = true) :
    Printable [token] :=
  ⟨List.isChain_singleton _, List.forall_mem_singleton.2 hprintable⟩

theorem Printable.commaJoin {pieces : List (List (JsonToken N))}
    (hpieces : ∀ piece ∈ pieces, Printable piece) : Printable (commaJoin pieces) := by
  cases pieces with
  | nil => exact .nil
  | cons first rest =>
      rw [List.forall_mem_cons] at hpieces
      obtain ⟨hfirst, hrest⟩ := hpieces
      rw [Library.commaJoin]
      induction rest generalizing first with
      | nil => rwa [List.flatMap_nil, List.append_nil]
      | cons second rest ih =>
          rw [List.forall_mem_cons] at hrest
          have happend := ih (first ++ .comma :: second)
            (hfirst.append hrest.1 rfl rfl) hrest.2
          rwa [List.append_assoc] at happend

theorem tokens_printable (value : Json N) : Printable value.tokens := by
  induction value using inductionOn with
  | null => exact .singleton rfl
  | bool value => exact .singleton rfl
  | number value =>
      change Printable (if (JsonNumber.numeral value).isSome then [.number value] else [.null])
      split_ifs with hfinite
      · exact .singleton hfinite
      · exact .singleton rfl
  | string value => exact .singleton rfl
  | array items ih =>
      rw [tokens_array]
      have hitems : Printable (commaJoin (items.map tokens)) :=
        .commaJoin (List.forall_mem_map.2 ih)
      exact Printable.nil.append (hitems.append .nil rfl rfl) rfl rfl
  | object fields ih =>
      rw [tokens_object]
      have hfields : Printable (commaJoin
          (fields.map fun field => .text field.1 :: .colon :: field.2.tokens)) := by
        refine .commaJoin (List.forall_mem_map.2 fun field hmem => ?_)
        exact Printable.nil.append (Printable.nil.append (ih field hmem) rfl rfl) rfl rfl
      exact Printable.nil.append (hfields.append .nil rfl rfl) rfl rfl


theorem printed_array (items : List (Json N)) :
    (array items).printed = .array (items.map printed) :=
  fold_array _ items

theorem printed_object (fields : List (String × Json N)) :
    (object fields).printed = .object (fields.map (Prod.map id printed)) :=
  fold_object _ fields

theorem printed_number (value : N) :
    (number value).printed =
      if (JsonNumber.numeral value).isSome then .number value else .null :=
  rfl

/-- What is left of a value prints as the value does. -/
theorem tokens_printed (value : Json N) : value.printed.tokens = value.tokens := by
  induction value using inductionOn with
  | null => rfl
  | bool value => rfl
  | number value =>
      rw [printed_number]
      split_ifs with hfinite
      · rfl
      · exact (if_neg hfinite).symm
  | string value => rfl
  | array items ih =>
      have hitems : items.map (tokens ∘ printed) = items.map tokens := List.map_congr_left ih
      rw [printed_array, tokens_array, tokens_array, List.map_map, hitems]
  | object fields ih =>
      rw [printed_object, tokens_object, tokens_object, List.map_map]
      have hfields : fields.map ((fun field => .text field.1 :: .colon :: field.2.tokens) ∘
          Prod.map id printed) =
          fields.map fun field => .text field.1 :: .colon :: field.2.tokens := by
        refine List.map_congr_left fun field hmem => ?_
        rw [Function.comp_apply, Prod.map_fst, Prod.map_snd, id, ih field hmem]
      rw [hfields]

theorem stringify_printed (value : Json N) : value.printed.stringify = value.stringify := by
  rw [stringify, tokens_printed, stringify]

theorem printed_idem (value : Json N) : value.printed.printed = value.printed := by
  induction value using inductionOn with
  | null => rfl
  | bool value => rfl
  | number value =>
      rw [printed_number]
      split_ifs with hfinite
      · exact if_pos hfinite
      · rfl
  | string value => rfl
  | array items ih =>
      have hitems : items.map (printed ∘ printed) = items.map printed := List.map_congr_left ih
      rw [printed_array, printed_array, List.map_map, hitems]
  | object fields ih =>
      have hfields : fields.map (Prod.map id printed ∘ Prod.map id printed) =
          fields.map (Prod.map id printed) :=
        List.map_congr_left fun field hmem => Prod.ext rfl (ih field hmem)
      rw [printed_object, printed_object, List.map_map, hfields]

/-- Values that are printed whole: every number in them is finite. -/
def isPrintable : Json N → Bool :=
  fold
    { null := true
      bool := fun _ => true
      number := fun value => (JsonNumber.numeral value).isSome
      string := fun _ => true
      array := fun items => items.all id
      object := fun fields => fields.all (·.2) }

theorem isPrintable_array {items : List (Json N)} :
    (array items).isPrintable = true ↔ ∀ item ∈ items, item.isPrintable = true := by
  have heq : (array items).isPrintable = (items.map isPrintable).all id := fold_array _ items
  rw [heq, List.all_map, List.all_eq_true]
  rfl

theorem isPrintable_object {fields : List (String × Json N)} :
    (object fields).isPrintable = true ↔ ∀ field ∈ fields, field.2.isPrintable = true := by
  have heq : (object fields).isPrintable =
      (fields.map (Prod.map id isPrintable)).all (·.2) := fold_object _ fields
  rw [heq, List.all_map, List.all_eq_true]
  rfl

theorem printed_eq_self_iff {value : Json N} :
    value.printed = value ↔ value.isPrintable = true := by
  induction value using inductionOn with
  | null => exact ⟨fun _ => rfl, fun _ => rfl⟩
  | bool value => exact ⟨fun _ => rfl, fun _ => rfl⟩
  | number value =>
      rw [printed_number]
      by_cases hfinite : (JsonNumber.numeral value).isSome = true
      · rw [if_pos hfinite]
        exact ⟨fun _ => hfinite, fun _ => rfl⟩
      · rw [if_neg hfinite]
        exact ⟨fun hnull => absurd hnull (by simp), fun hprintable => absurd hprintable hfinite⟩
  | string value => exact ⟨fun _ => rfl, fun _ => rfl⟩
  | array items ih =>
      have hself : items.map printed = items ↔ items.map printed = items.map id := by
        rw [List.map_id]
      rw [printed_array, array.injEq, isPrintable_array, hself, List.map_inj_left]
      exact forall₂_congr ih
  | object fields ih =>
      have hself : fields.map (Prod.map id printed) = fields ↔
          fields.map (Prod.map id printed) = fields.map id := by
        rw [List.map_id]
      rw [printed_object, object.injEq, isPrintable_object, hself, List.map_inj_left]
      refine forall₂_congr fun field hmem => ?_
      rw [← ih field hmem, Prod.ext_iff]
      exact ⟨fun h => h.2, fun h => ⟨rfl, h⟩⟩

theorem isPrintable_sortKeys (value : Json N) : value.sortKeys.isPrintable = value.isPrintable := by
  rw [Bool.eq_iff_iff]
  induction value using inductionOn with
  | null => rfl
  | bool value => rfl
  | number value => rfl
  | string value => rfl
  | array items ih =>
      rw [sortKeys_array, isPrintable_array, isPrintable_array, List.forall_mem_map]
      exact forall₂_congr ih
  | object fields ih =>
      rw [sortKeys_object, isPrintable_object, isPrintable_object, List.forall_mem_map]
      constructor
      · exact fun hprintable field hmem => (ih field hmem).1 (hprintable field (mem_arrange.2 hmem))
      · exact fun hprintable field hmem =>
          (ih field (mem_arrange.1 hmem)).2 (hprintable field (mem_arrange.1 hmem))

/-- No value begins with a closing bracket. -/
theorem tokens_eq_cons (value : Json N) :
    ∃ first rest, value.tokens = first :: rest ∧ first ≠ .closeArray := by
  cases value with
  | null => exact ⟨_, _, rfl, nofun⟩
  | bool value => exact ⟨_, _, rfl, nofun⟩
  | number value =>
      change ∃ first rest, (if (JsonNumber.numeral value).isSome then [.number value]
        else [.null]) = first :: rest ∧ first ≠ JsonToken.closeArray
      split_ifs
      · exact ⟨_, _, rfl, nofun⟩
      · exact ⟨_, _, rfl, nofun⟩
  | string value => exact ⟨_, _, rfl, nofun⟩
  | array items => exact ⟨_, _, tokens_array items, nofun⟩
  | object fields => exact ⟨_, _, tokens_object fields, nofun⟩

end Json

namespace Parser

open Json

omit [JsonNumber N] in
theorem step_firstItem (stack : List (Frame N)) {token : JsonToken N}
    (hne : token ≠ .closeArray) :
    step ⟨stack, .firstItem⟩ token = step ⟨stack, .value⟩ token := by
  unfold step
  split <;> simp_all

theorem run_firstItem (stack : List (Frame N)) (value : Json N) :
    runSchedule step ⟨stack, .firstItem⟩ value.tokens =
      runSchedule step ⟨stack, .value⟩ value.tokens := by
  obtain ⟨first, rest, htokens, hne⟩ := tokens_eq_cons value
  rw [htokens, runSchedule, runSchedule, step_firstItem stack hne]

/-- The parser takes the printed value wherever it expects one. -/
def Reads (value : Json N) : Prop :=
  ∀ stack : List (Frame N),
    runSchedule step ⟨stack, .value⟩ value.tokens = some ⟨stack, .after value.printed⟩

theorem run_items {items : List (Json N)} (hreads : ∀ item ∈ items, Reads item)
    (stack : List (Frame N)) (done : List (Json N)) (value : Json N) :
    runSchedule step ⟨.array done :: stack, .after value⟩
        ((items.map tokens).flatMap (.comma :: ·) ++ [.closeArray]) =
      some ⟨stack, .after (.array (done ++ value :: items.map printed))⟩ := by
  induction items generalizing done value with
  | nil => rfl
  | cons item rest ih =>
      rw [List.forall_mem_cons] at hreads
      rw [List.map_cons, List.flatMap_cons, List.cons_append, List.cons_append, runSchedule,
        List.append_assoc]
      have hcomma : step (N := N) ⟨.array done :: stack, .after value⟩ .comma =
          some ⟨.array (done ++ [value]) :: stack, .value⟩ := rfl
      rw [hcomma, Option.bind_some, runSchedule_append, hreads.1, Option.bind_some,
        ih hreads.2, List.append_assoc]
      rfl

omit [JsonNumber N] in
theorem setField_of_notMem {fields : List (String × Json N)} {key : String}
    (hkey : key ∉ keysOf fields) (value : Json N) :
    setField fields key value = fields ++ [(key, value)] :=
  if_neg hkey

theorem run_fields {fields : List (String × Json N)} (hreads : ∀ field ∈ fields, Reads field.2)
    (stack : List (Frame N)) (done : List (String × Json N)) (key : String) (value : Json N)
    (hnodup : (keysOf (done ++ (key, value) :: fields)).Nodup) :
    runSchedule step ⟨.object done key :: stack, .after value⟩
        ((fields.map fun field => .text field.1 :: .colon :: field.2.tokens).flatMap
          (.comma :: ·) ++ [.closeObject]) =
      some ⟨stack, .after
        (.object (done ++ (key, value) :: fields.map (Prod.map id printed)))⟩ := by
  have hfresh : key ∉ keysOf done := by
    rw [keysOf, List.map_append, List.map_cons, List.nodup_append] at hnodup
    exact fun hmem => hnodup.2.2 _ hmem _ List.mem_cons_self rfl
  induction fields generalizing done key value with
  | nil =>
      rw [List.map_nil, List.flatMap_nil, List.nil_append, runSchedule, step,
        setField_of_notMem hfresh]
      rfl
  | cons field rest ih =>
      rw [List.forall_mem_cons] at hreads
      obtain ⟨name, item⟩ := field
      have hassoc : done ++ (key, value) :: (name, item) :: rest =
          (done ++ [(key, value)]) ++ (name, item) :: rest := by
        rw [List.append_assoc]
        rfl
      rw [hassoc] at hnodup
      have hnodup' : (keysOf ((done ++ [(key, value)]) ++ (name, item.printed) :: rest)).Nodup := by
        rwa [keysOf, List.map_append, List.map_cons] at hnodup ⊢
      have hnext : name ∉ keysOf (done ++ [(key, value)]) := by
        rw [keysOf, List.map_append, List.map_cons, List.nodup_append] at hnodup
        exact fun hmem => hnodup.2.2 _ hmem _ List.mem_cons_self rfl
      have hcomma : step (N := N) ⟨.object done key :: stack, .after value⟩ .comma =
          some ⟨stack, .key (done ++ [(key, value)])⟩ := by
        rw [step, setField_of_notMem hfresh]
      rw [List.map_cons, List.flatMap_cons, List.cons_append, List.cons_append, runSchedule,
        hcomma, Option.bind_some]
      have hkey : step (N := N) ⟨stack, .key (done ++ [(key, value)])⟩ (.text name) =
          some ⟨stack, .colon (done ++ [(key, value)]) name⟩ := rfl
      have hcolon : step (N := N) ⟨stack, .colon (done ++ [(key, value)]) name⟩ .colon =
          some ⟨.object (done ++ [(key, value)]) name :: stack, .value⟩ := rfl
      simp only [List.cons_append]
      rw [runSchedule, hkey, Option.bind_some, runSchedule, hcolon, Option.bind_some,
        List.append_assoc, runSchedule_append, hreads.1, Option.bind_some,
        ih hreads.2 _ _ _ hnodup' hnext, List.append_assoc]
      rfl

theorem reads_of_distinct (value : Json N) (hdistinct : value.distinct = true) :
    Reads value := by
  induction value using Json.inductionOn with
  | null => exact fun _ => rfl
  | bool value => exact fun _ => rfl
  | number value =>
      intro stack
      change runSchedule step _ (if (JsonNumber.numeral value).isSome then [.number value]
        else [.null]) = some ⟨stack, .after (if (JsonNumber.numeral value).isSome then
          .number value else .null)⟩
      split_ifs <;> rfl
  | string value => exact fun _ => rfl
  | array items ih =>
      intro stack
      rw [tokens_array, printed_array, runSchedule]
      have hopen : step (N := N) ⟨stack, .value⟩ .openArray =
          some ⟨.array [] :: stack, .firstItem⟩ := rfl
      rw [hopen, Option.bind_some]
      rw [distinct_array] at hdistinct
      cases items with
      | nil => rfl
      | cons first rest =>
          have hreads := fun item hmem => ih item hmem (hdistinct item hmem)
          rw [List.forall_mem_cons] at hreads
          rw [List.map_cons, commaJoin, List.append_assoc, runSchedule_append, run_firstItem,
            hreads.1, Option.bind_some, run_items hreads.2]
          rfl
  | object fields ih =>
      intro stack
      rw [tokens_object, printed_object, runSchedule]
      have hopen : step (N := N) ⟨stack, .value⟩ .openObject = some ⟨stack, .firstKey⟩ := rfl
      rw [hopen, Option.bind_some]
      rw [distinct_object] at hdistinct
      cases fields with
      | nil => rfl
      | cons field rest =>
          obtain ⟨name, item⟩ := field
          have hreads := fun field hmem => ih field hmem (hdistinct.2 field hmem)
          rw [List.forall_mem_cons] at hreads
          have hkey : step (N := N) ⟨stack, .firstKey⟩ (.text name) =
              some ⟨stack, .colon [] name⟩ := rfl
          have hcolon : step (N := N) ⟨stack, .colon [] name⟩ .colon =
              some ⟨.object [] name :: stack, .value⟩ := rfl
          rw [List.map_cons, commaJoin, List.append_assoc, List.cons_append, List.cons_append,
            runSchedule, hkey, Option.bind_some, runSchedule, hcolon, Option.bind_some,
            runSchedule_append, hreads.1, Option.bind_some,
            run_fields hreads.2 stack [] name item.printed hdistinct.1]
          rfl

end Parser

namespace Json

/-- A printed value reads back as what was left of it. -/
theorem parse_stringify {value : Json N} (hdistinct : value.distinct = true) :
    parse value.stringify = some value.printed := by
  obtain ⟨hseparated, hprintable⟩ := tokens_printable value
  rw [parse, stringify, String.toList_ofList, lex_chars hseparated hprintable,
    Option.bind_some, parseTokens, Parser.initial, Parser.reads_of_distinct value hdistinct]
  rfl

/-- Equal texts leave equal values. -/
theorem printed_eq_of_stringify_eq {a b : Json N} (ha : a.distinct = true)
    (hb : b.distinct = true) (heq : a.stringify = b.stringify) : a.printed = b.printed := by
  have hparse := parse_stringify ha
  rw [heq, parse_stringify hb] at hparse
  exact (Option.some_inj.1 hparse).symm

end Json

/-! ### The characters of a printed value -/

theorem toNat_ge_of_isWordChar {c : Char} (hword : isWordChar c = true) : 0x20 ≤ c.toNat := by
  by_contra hlt
  rw [Nat.not_le] at hlt
  have hall : ∀ n < 0x20, isWordChar (Char.ofNat n) = false := by decide
  have hc := hall c.toNat hlt
  rw [Char.ofNat_toNat, hword] at hc
  cases hc

theorem toNat_ge_of_mem_escapeChar {c d : Char} (hmem : d ∈ escapeChar c) : 0x20 ≤ d.toNat := by
  have hmarks : shortEscapes.all (fun pair => ['\\', pair.2].all (0x20 ≤ ·.toNat)) = true := by
    decide
  have hdigits : ∀ digit < 16, 0x20 ≤ (Nat.digitChar digit).toNat := by decide
  unfold escapeChar at hmem
  split at hmem
  case h_1 mark hmark =>
    obtain ⟨before, after, hsplit, _⟩ := List.lookup_eq_some_iff.1 hmark
    have hpair : (c, mark) ∈ shortEscapes :=
      hsplit ▸ List.mem_append_right _ List.mem_cons_self
    exact of_decide_eq_true (List.all_eq_true.1 (List.all_eq_true.1 hmarks _ hpair) d hmem)
  case h_2 =>
    split_ifs at hmem with hcontrol
    · simp only [List.mem_cons, List.not_mem_nil, or_false] at hmem
      rcases hmem with rfl | rfl | rfl | rfl | rfl | rfl
      · decide
      · decide
      · decide
      · decide
      · exact hdigits _ (by omega)
      · exact hdigits _ (by omega)
    · rw [List.mem_singleton.1 hmem]
      omega

theorem JsonToken.toNat_ge_of_mem_chars {token : JsonToken N} {c : Char}
    (hprintable : token.isPrintable = true) (hmem : c ∈ token.chars) : 0x20 ≤ c.toNat := by
  cases hword : token.isWord with
  | true =>
      have hall := (Lexer.wordToken_chars hword hprintable).2.1
      exact toNat_ge_of_isWordChar (List.all_eq_true.1 hall c hmem)
  | false =>
      cases token with
      | text value =>
          simp only [JsonToken.chars, quote, List.mem_cons, List.mem_append, List.mem_flatMap,
            List.not_mem_nil, or_false] at hmem
          rcases hmem with rfl | ⟨d, _, hd⟩ | rfl
          · decide
          · exact toNat_ge_of_mem_escapeChar hd
          · decide
      | null => cases hword
      | bool value => cases hword
      | number value => cases hword
      | _ =>
          rw [List.mem_singleton.1 hmem]
          decide

namespace Json

/-- Nothing printed is a control character, a line break in particular. -/
theorem toNat_ge_of_mem_stringify {value : Json N} {c : Char}
    (hmem : c ∈ value.stringify.toList) : 0x20 ≤ c.toNat := by
  rw [stringify, String.toList_ofList, List.mem_flatMap] at hmem
  obtain ⟨token, htoken, hc⟩ := hmem
  exact token.toNat_ge_of_mem_chars ((tokens_printable value).2 token htoken) hc

theorem stringify_object (fields : List (String × Json N)) :
    ∃ middle, (object fields).stringify.toList = '{' :: (middle ++ ['}']) := by
  rw [stringify, String.toList_ofList, tokens_object, List.flatMap_cons, List.flatMap_append]
  exact ⟨_, rfl⟩

end Json

/-! ### Texts that go on after a value -/

namespace Lexer

omit [JsonNumber N] in
theorem done_of_start {done : List (JsonToken N)} {c : Char} {next : Lexer N}
    (hstart : start done c = some next) : done <+: next.done := by
  unfold start at hstart
  by_cases hspace : isBlank c = true
  · rw [if_pos hspace] at hstart
    cases hstart
    exact List.prefix_refl _
  rw [if_neg hspace] at hstart
  by_cases hquote : c = '"'
  · rw [if_pos hquote] at hstart
    cases hstart
    exact List.prefix_refl _
  rw [if_neg hquote] at hstart
  cases hpunctuation : punctuation (N := N) c with
  | some token =>
      rw [hpunctuation] at hstart
      cases hstart
      exact List.prefix_append _ _
  | none =>
      rw [hpunctuation] at hstart
      obtain ⟨_, heq⟩ := Option.ite_none_right_eq_some.1 hstart
      cases heq
      exact List.prefix_refl _

theorem done_of_settle {lexer : Lexer N} {done : List (JsonToken N)}
    (hsettle : lexer.settle = some done) : lexer.done <+: done := by
  unfold settle at hsettle
  split at hsettle
  · cases hsettle
    exact List.prefix_refl _
  · obtain ⟨token, _, rfl⟩ := Option.map_eq_some_iff.1 hsettle
    exact List.prefix_append _ _
  · cases hsettle

/-- The tokens read stay read. -/
theorem done_of_step {lexer next : Lexer N} {c : Char} (hstep : lexer.step c = some next) :
    lexer.done <+: next.done := by
  unfold step at hstep
  split at hstep
  · exact done_of_start hstep
  · split_ifs at hstep
    · cases hstep
      exact List.prefix_refl _
    · obtain ⟨done, hsettle, hstart⟩ := Option.bind_eq_some_iff.1 hstep
      exact (done_of_settle hsettle).trans (done_of_start hstart)
  · split_ifs at hstep <;> cases hstep
    · exact List.prefix_append _ _
    · exact List.prefix_refl _
    · exact List.prefix_refl _
  · split_ifs at hstep
    · cases hstep
      exact List.prefix_refl _
    · obtain ⟨_, _, rfl⟩ := Option.map_eq_some_iff.1 hstep
      exact List.prefix_refl _
  · split_ifs at hstep
    cases hstep
    exact List.prefix_refl _
  · obtain ⟨digit, _, hread⟩ := Option.bind_eq_some_iff.1 hstep
    split_ifs at hread
    · obtain ⟨_, _, rfl⟩ := Option.map_eq_some_iff.1 hread
      exact List.prefix_refl _
    · cases hread
      exact List.prefix_refl _
  · split_ifs at hstep
    cases hstep
    exact List.prefix_refl _

theorem done_of_run {text : List Char} {lexer last : Lexer N}
    (hrun : runSchedule step lexer text = some last) : lexer.done <+: last.done := by
  have hkeeps : ∀ {s t : Lexer N} {c : Char}, lexer.done <+: s.done → True →
      step s c = some t → lexer.done <+: t.done :=
    fun hinv _ hstep => hinv.trans (done_of_step hstep)
  exact (reaches_of_schedule hrun).invariant hkeeps (List.prefix_refl _)

/-- A character that can only stand between two tokens, if anywhere. -/
def IsGap (c : Char) : Prop :=
  isWordChar c = false ∧ c ≠ '"' ∧ punctuation (N := N) c = none

theorem run_gap {gap : List Char} (hgap : ∀ c ∈ gap, IsGap (N := N) c) {lexer last : Lexer N}
    {done : List (JsonToken N)} (hsettle : lexer.settle = some done)
    (hrun : runSchedule step lexer gap = some last) : last.settle = some done := by
  induction gap generalizing lexer with
  | nil =>
      cases hrun
      exact hsettle
  | cons c rest ih =>
      rw [List.forall_mem_cons] at hgap
      obtain ⟨next, hstep, hrest⟩ := Option.bind_eq_some_iff.1 hrun
      obtain ⟨hword, hquote, hpunctuation⟩ := hgap.1
      refine ih hgap.2 ?_ hrest
      rw [step_of_settle hsettle hword, start, if_neg hquote, hpunctuation, hword] at hstep
      by_cases hspace : isBlank c = true
      · rw [if_pos hspace] at hstep
        cases hstep
        rfl
      · rw [if_neg hspace] at hstep
        cases hstep

end Lexer

/-- After a whole value nothing that opens an object is read. -/
theorem Json.parse_append_object {text : String} {gap rest : List Char}
    (hparse : (Json.parse (N := N) text).isSome = true)
    (hgap : ∀ c ∈ gap, Lexer.IsGap (N := N) c) :
    Json.parse (N := N) (String.ofList (text.toList ++ (gap ++ '{' :: rest))) = none := by
  obtain ⟨value, hparse⟩ := Option.isSome_iff_exists.1 hparse
  obtain ⟨tokens, hlex, htokens⟩ := Option.bind_eq_some_iff.1 hparse
  obtain ⟨lexer, hrun, hsettle⟩ := Option.bind_eq_some_iff.1 hlex
  obtain ⟨parser, hparser, hresult⟩ := Option.bind_eq_some_iff.1 htokens
  by_contra hsome
  obtain ⟨value', hparse'⟩ := Option.ne_none_iff_exists'.1 hsome
  obtain ⟨tokens', hlex', htokens'⟩ := Option.bind_eq_some_iff.1 hparse'
  rw [String.toList_ofList, lex, runSchedule_append, hrun, Option.bind_some,
    runSchedule_append] at hlex'
  obtain ⟨last, hlast, hsettle'⟩ := Option.bind_eq_some_iff.1 hlex'
  obtain ⟨between, hbetween, hobject⟩ := Option.bind_eq_some_iff.1 hlast
  have hopen : between.step '{' = some ⟨tokens ++ [.openObject], .between⟩ :=
    Lexer.step_of_settle (Lexer.run_gap hgap hsettle hbetween) rfl
  rw [runSchedule, hopen, Option.bind_some] at hobject
  obtain ⟨more, hmore⟩ := (Lexer.done_of_run hobject).trans (Lexer.done_of_settle hsettle')
  rw [← hmore, parseTokens, List.append_assoc, runSchedule_append, hparser,
    Option.bind_some] at htokens'
  unfold Parser.result at hresult
  split at hresult
  · cases htokens'
  · cases hresult


/-! ### What is read has distinct fields -/

section Distinct

omit [JsonNumber N]

theorem setField_distinct {fields : List (String × Json N)} {key : String} {value : Json N}
    (hfields : (Json.object fields).distinct = true) (hvalue : value.distinct = true) :
    (Json.object (setField fields key value)).distinct = true := by
  rw [Json.distinct_object] at hfields ⊢
  unfold setField
  split_ifs with hkey
  · have hkeys : keysOf (fields.map fun field => if field.1 = key then (key, value) else field) =
        keysOf fields := by
      rw [keysOf, List.map_map]
      refine List.map_congr_left fun field _ => ?_
      rw [Function.comp_apply]
      split_ifs with hname
      · exact hname.symm
      · rfl
    rw [hkeys]
    refine ⟨hfields.1, List.forall_mem_map.2 fun field hmem => ?_⟩
    split_ifs
    · exact hvalue
    · exact hfields.2 field hmem
  · rw [keysOf, List.map_append, List.nodup_append]
    refine ⟨⟨hfields.1, List.nodup_singleton _, ?_⟩, ?_⟩
    · rintro name hname _ hmem rfl
      rw [List.map_singleton, List.mem_singleton] at hmem
      rw [hmem] at hname
      exact hkey hname
    · intro field hmem
      rcases List.mem_append.1 hmem with hmem | hmem
      · exact hfields.2 field hmem
      · rw [List.mem_singleton.1 hmem]
        exact hvalue

namespace Parser

def FrameDistinct : Frame N → Prop
  | .array items => (Json.array items).distinct = true
  | .object fields _ => (Json.object fields).distinct = true

def ExpectedDistinct : Expected N → Prop
  | .key fields => (Json.object fields).distinct = true
  | .colon fields _ => (Json.object fields).distinct = true
  | .after value => value.distinct = true
  | _ => True

/-- Everything read so far has distinct fields. -/
def Distinct (parser : Parser N) : Prop :=
  (∀ frame ∈ parser.stack, FrameDistinct frame) ∧ ExpectedDistinct parser.expected

theorem start_distinct {stack : List (Frame N)} {token : JsonToken N} {next : Parser N}
    (hstack : ∀ frame ∈ stack, FrameDistinct frame) (hstart : start stack token = some next) :
    next.Distinct := by
  cases token with
  | openArray =>
      cases hstart
      exact ⟨List.forall_mem_cons.2 ⟨rfl, hstack⟩, trivial⟩
  | openObject =>
      cases hstart
      exact ⟨hstack, trivial⟩
  | null =>
      cases hstart
      exact ⟨hstack, rfl⟩
  | bool value =>
      cases hstart
      exact ⟨hstack, rfl⟩
  | number value =>
      cases hstart
      exact ⟨hstack, rfl⟩
  | text value =>
      cases hstart
      exact ⟨hstack, rfl⟩
  | _ => cases hstart

theorem items_distinct {items : List (Json N)} {value : Json N}
    (hitems : (Json.array items).distinct = true) (hvalue : value.distinct = true) :
    (Json.array (items ++ [value])).distinct = true := by
  rw [Json.distinct_array] at hitems ⊢
  intro item hmem
  rcases List.mem_append.1 hmem with hmem | hmem
  · exact hitems item hmem
  · rw [List.mem_singleton.1 hmem]
    exact hvalue

theorem step_distinct {parser next : Parser N} {token : JsonToken N}
    (hdistinct : parser.Distinct) (hstep : parser.step token = some next) : next.Distinct := by
  obtain ⟨hstack, hexpected⟩ := hdistinct
  unfold step at hstep
  split at hstep
  · exact start_distinct hstack hstep
  · cases hstep
    rw [List.forall_mem_cons] at hstack
    exact ⟨hstack.2, hstack.1⟩
  · exact start_distinct hstack hstep
  · cases hstep
    exact ⟨hstack, rfl⟩
  · cases hstep
    exact ⟨hstack, rfl⟩
  · cases hstep
    exact ⟨hstack, hexpected⟩
  · cases hstep
    exact ⟨List.forall_mem_cons.2 ⟨hexpected, hstack⟩, trivial⟩
  · cases hstep
    rw [List.forall_mem_cons] at hstack
    exact ⟨List.forall_mem_cons.2 ⟨items_distinct hstack.1 hexpected, hstack.2⟩, trivial⟩
  · cases hstep
    rw [List.forall_mem_cons] at hstack
    exact ⟨hstack.2, items_distinct hstack.1 hexpected⟩
  · cases hstep
    rw [List.forall_mem_cons] at hstack
    exact ⟨hstack.2, setField_distinct hstack.1 hexpected⟩
  · cases hstep
    rw [List.forall_mem_cons] at hstack
    exact ⟨hstack.2, setField_distinct hstack.1 hexpected⟩
  · cases hstep

end Parser

end Distinct

/-- `JSON.parse` builds objects with distinct fields. -/
theorem Json.parse_distinct {text : String} {value : Json N}
    (hparse : Json.parse text = some value) : value.distinct = true := by
  obtain ⟨tokens, _, htokens⟩ := Option.bind_eq_some_iff.1 hparse
  obtain ⟨parser, hrun, hresult⟩ := Option.bind_eq_some_iff.1 htokens
  have hdistinct : parser.Distinct :=
    (reaches_of_schedule hrun).invariant (fun hinv _ => Parser.step_distinct hinv)
      ⟨fun _ hmem => absurd hmem List.not_mem_nil, trivial⟩
  unfold Parser.result at hresult
  split at hresult
  · cases hresult
    exact hdistinct.2
  · cases hresult

end GovernedRuntime.Library
