/-
Which lines of a ticket text declare a risk class (`src/state/risk-declaration.ts`), and
what becomes of the declarations when texts are joined.
-/
import GovernedRuntime.Library.FencedBlocks
import GovernedRuntime.Library.Lines
import GovernedRuntime.Risk.Declaration

namespace GovernedRuntime.Risk

open GovernedRuntime.Activation (isTrimmed trim)
open GovernedRuntime.Library
open GovernedRuntime.State
open Pattern

/-! ### Declarations of a text -/

/-- The fence that a line opens. -/
def openedFence (line : String) : Option Fence := (fenceOf line).map (·.1)

/-- The lines of a text outside fenced blocks. -/
abbrev OutsideFences : List String → List String → Prop := Outside openedFence isClosingFence

/-- The same, of a text that closes its fences. -/
abbrev ClosedFences : List String → List String → Prop := Closed openedFence isClosingFence

/-- A line that is no quotation and no indented code, and has a key and a separator. -/
def isDeclaration (line : String) : Bool :=
  !(quotedLine.test line.toList || indentedLine.test line.toList) &&
    !(declarationHead.ends ⟨true, line.toList⟩).isEmpty

/-- What follows the first separator of a line. -/
def declaredText (line : String) : List Char :=
  (line.toList.dropWhile fun c => !([':', '='].contains c)).drop 1

/-- No carriage return and no line or paragraph separator follows the separator. -/
def isReadable (line : String) : Bool := (declaredText line).all anyChar

/-! ### The scan -/

theorem scanDeclarationLine_plain {line : String} (hplain : openedFence line = none) :
    scanDeclarationLine line none =
      ⟨none, quotedLine.test line.toList || indentedLine.test line.toList⟩ := by
  rw [scanDeclarationLine, Option.map_eq_none_iff.1 hplain]

theorem scanDeclarationLine_opening {line : String} {fence : Fence}
    (hopens : openedFence line = some fence) : scanDeclarationLine line none = ⟨some fence, true⟩ := by
  obtain ⟨opened, hopened, rfl⟩ := Option.map_eq_some_iff.1 hopens
  rw [scanDeclarationLine, hopened]

/-- The text that a line contributes. -/
def contribution (line : String) : Option String :=
  if quotedLine.test line.toList || indentedLine.test line.toList then none
  else (declarationCapture line).map trim

def malformedText (raw : String) : Option String :=
  if (parseDeclarationValue raw).isSome then none
  else some (if raw == "" then "(no value)" else raw)

def contributedValues (lines : List String) : List TaskClass :=
  (lines.filterMap contribution).filterMap parseDeclarationValue

def contributedErrors (lines : List String) : List String :=
  (lines.filterMap contribution).filterMap malformedText

theorem collectDeclarationLine_plain {line : String} (hplain : openedFence line = none)
    (values : List TaskClass) (invalidRaw : List String) :
    collectDeclarationLine ⟨none, values, invalidRaw⟩ line =
      ⟨none, values ++ contributedValues [line], invalidRaw ++ contributedErrors [line]⟩ := by
  simp only [collectDeclarationLine, scanDeclarationLine_plain hplain, contributedValues,
    contributedErrors, List.filterMap_cons, List.filterMap_nil, contribution]
  cases hskip : quotedLine.test line.toList || indentedLine.test line.toList with
  | true => simp
  | false =>
      cases hcapture : declarationCapture line with
      | none => simp
      | some captured =>
          cases hvalue : parseDeclarationValue (trim captured) <;>
            simp [hvalue, malformedText]

theorem collectDeclarationLine_fenced (line : String) (fence : Fence)
    (values : List TaskClass) (invalidRaw : List String) :
    collectDeclarationLine ⟨some fence, values, invalidRaw⟩ line =
      ⟨if isClosingFence line fence then none else some fence, values, invalidRaw⟩ := by
  simp [collectDeclarationLine, scanDeclarationLine]

theorem collectDeclarationLine_opening {line : String} {fence : Fence}
    (hopens : openedFence line = some fence) (values : List TaskClass)
    (invalidRaw : List String) :
    collectDeclarationLine ⟨none, values, invalidRaw⟩ line =
      ⟨some fence, values, invalidRaw⟩ := by
  simp [collectDeclarationLine, scanDeclarationLine_opening hopens]

theorem foldl_collect_content {content : List String} {fence : Fence}
    (hcontent : ∀ line ∈ content, isClosingFence line fence = false)
    (values : List TaskClass) (invalidRaw : List String) :
    content.foldl collectDeclarationLine ⟨some fence, values, invalidRaw⟩ =
      ⟨some fence, values, invalidRaw⟩ := by
  induction content with
  | nil => rfl
  | cons line rest ih =>
      obtain ⟨hline, hrest⟩ := List.forall_mem_cons.1 hcontent
      rw [List.foldl_cons, collectDeclarationLine_fenced, hline, if_neg Bool.false_ne_true]
      exact ih hrest

theorem contributedValues_append (lines others : List String) :
    contributedValues (lines ++ others) = contributedValues lines ++ contributedValues others := by
  simp [contributedValues]

theorem contributedErrors_append (lines others : List String) :
    contributedErrors (lines ++ others) = contributedErrors lines ++ contributedErrors others := by
  simp [contributedErrors]

/-- After closed blocks the scan has what the lines outside them contribute. -/
theorem foldl_collect_closed {lines out : List String} (hclosed : ClosedFences lines out)
    (values : List TaskClass) (invalidRaw : List String) :
    lines.foldl collectDeclarationLine ⟨none, values, invalidRaw⟩ =
      ⟨none, values ++ contributedValues out, invalidRaw ++ contributedErrors out⟩ := by
  induction hclosed generalizing values invalidRaw with
  | nil => simp [contributedValues, contributedErrors]
  | @plain line lines out hplain hrest ih =>
      rw [List.foldl_cons, collectDeclarationLine_plain hplain, ih, List.append_assoc,
        List.append_assoc, ← contributedValues_append, ← contributedErrors_append]
      rfl
  | block hopens hcontent hcloses hrest ih =>
      rw [List.cons_append, List.foldl_cons, collectDeclarationLine_opening hopens,
        List.foldl_append, foldl_collect_content hcontent, List.foldl_cons,
        collectDeclarationLine_fenced, if_pos hcloses]
      exact ih values invalidRaw

/-! ### What a line declares -/

/-- `DECLARATION_LINE` up to its separator. -/
def declarationKey : List Pattern :=
  let blanks := Pattern.many isTrimmed
  let someBlanks := Pattern.seq (.char isTrimmed) blanks
  let hash := optional (word "#")
  let emphasis := optional (words ["**", "__"])
  [textStart, blanks,
    optional (.alt (.seq (.char (['-', '*', '+'].contains ·)) someBlanks)
      (concat [word "#", hash, hash, hash, hash, hash, someBlanks])),
    emphasis, blanks,
    .alt (.seq (letters "risk") (optional (.seq blanks (letters "class"))))
      (letters "risikoklasse"),
    blanks, emphasis, blanks]

/-- The separator and the blanks after it. -/
def declarationSeparator : List Pattern :=
  [.char ([':', '='].contains ·), .many fun c => c == ' ' || c == '\t']

theorem declarationHead_eq :
    declarationHead = concat (declarationKey ++ declarationSeparator) := rfl

/-- No key has a separator. -/
theorem notMem_of_admits_key {c : Char} (hadmits : (concat declarationKey).admits c = true) :
    [':', '='].contains c = false := by
  have hcolon : (concat declarationKey).admits ':' = false := by decide
  have hequals : (concat declarationKey).admits '=' = false := by decide
  rw [Bool.eq_false_iff]
  intro hmem
  rw [List.contains_iff_mem, List.mem_cons, List.mem_singleton] at hmem
  rcases hmem with rfl | rfl
  · exact absurd (hcolon.symm.trans hadmits) Bool.false_ne_true
  · exact absurd (hequals.symm.trans hadmits) Bool.false_ne_true

/-- A declaration ends its head behind its first separator and some blanks. -/
theorem split_of_mem_ends {line : String} {after : Cursor}
    (hmem : after ∈ declarationHead.ends ⟨true, line.toList⟩) :
    ∃ key separator blanks, line.toList = key ++ separator :: (blanks ++ after.rest) ∧
      (∀ c ∈ key, [':', '='].contains c = false) ∧ [':', '='].contains separator = true ∧
      ∀ c ∈ blanks, anyChar c = true := by
  have hback : declarationSeparator ≠ [] := List.cons_ne_nil _ _
  rw [declarationHead_eq] at hmem
  obtain ⟨atSeparator, hkey, hseparator⟩ :=
    (@mem_ends_concat_append declarationKey _ hback _ _).1 hmem
  obtain ⟨key, htext, hadmits⟩ := exists_consumed hkey
  obtain ⟨afterSeparator, hcolon, hblanks⟩ := List.mem_flatMap.1 hseparator
  obtain ⟨blanks, hrest, hused⟩ := exists_consumed hblanks
  obtain ⟨separator, hcontains, hat, -⟩ := mem_ends_char.1 hcolon
  refine ⟨key, separator, blanks, by rw [← hrest, ← hat]; exact htext,
    fun c hc => notMem_of_admits_key (hadmits c hc), hcontains, fun c hc => ?_⟩
  have hblank : (c == ' ' || c == '\t') = true := hused c hc
  rw [Bool.or_eq_true, beq_iff_eq, beq_iff_eq] at hblank
  rcases hblank with rfl | rfl <;> rfl

theorem declaredText_of_split {line : String} {key rest : List Char} {separator : Char}
    (hline : line.toList = key ++ separator :: rest)
    (hkey : ∀ c ∈ key, [':', '='].contains c = false)
    (hseparator : [':', '='].contains separator = true) : declaredText line = rest := by
  have hskip : ∀ c ∈ key, (!([':', '='].contains c)) = true := fun c hc => by
    rw [hkey c hc]
    rfl
  rw [declaredText, hline, List.dropWhile_append_of_pos hskip, List.dropWhile_cons, hseparator]
  rfl

theorem isSome_declarationCapture (line : String) :
    (declarationCapture line).isSome =
      (!(declarationHead.ends ⟨true, line.toList⟩).isEmpty && isReadable line) := by
  have hsame : ∀ after ∈ declarationHead.ends ⟨true, line.toList⟩,
      after.rest.all anyChar = isReadable line := by
    intro after hafter
    obtain ⟨key, separator, blanks, hline, hkey, hseparator, hblanks⟩ := split_of_mem_ends hafter
    rw [isReadable, declaredText_of_split hline hkey hseparator, List.all_append, List.all_eq_true.2 hblanks, Bool.true_and]
  rw [declarationCapture, Option.isSome_map]
  cases hends : declarationHead.ends ⟨true, line.toList⟩ with
  | nil => rfl
  | cons after rest =>
      rw [hends] at hsame
      rw [Bool.eq_iff_iff, List.find?_isSome]
      simp only [List.isEmpty_cons, Bool.not_false, Bool.true_and]
      constructor
      · rintro ⟨found, hfound, hall⟩
        rwa [← hsame found hfound]
      · intro hreadable
        exact ⟨after, List.mem_cons_self, by rwa [hsame after List.mem_cons_self]⟩

theorem isSome_contribution (line : String) :
    (contribution line).isSome = (isDeclaration line && isReadable line) := by
  rw [contribution, isDeclaration]
  split_ifs with hskip
  · simp [hskip]
  · rw [Option.isSome_map, isSome_declarationCapture, Bool.eq_false_iff.2 hskip]
    simp

/-- Every contribution is a value or an error. -/
theorem length_contributed (lines : List String) :
    (contributedValues lines).length + (contributedErrors lines).length =
      (lines.filter fun line => isDeclaration line && isReadable line).length := by
  induction lines with
  | nil => rfl
  | cons line rest ih =>
      have hline := isSome_contribution line
      rw [← List.singleton_append, contributedValues_append, contributedErrors_append,
        List.filter_append, List.length_append, List.length_append, List.length_append, ← ih]
      suffices hone : (contributedValues [line]).length + (contributedErrors [line]).length =
          ([line].filter fun line => isDeclaration line && isReadable line).length by omega
      rw [List.filter_cons, ← hline]
      cases hcontribution : contribution line with
      | none => simp [contributedValues, contributedErrors, hcontribution]
      | some raw =>
          cases hvalue : parseDeclarationValue raw <;>
            simp [contributedValues, contributedErrors, hcontribution, hvalue, malformedText]

/-! ### Lines of joined texts -/

/-- `\r?\n` ends a line before its carriage return. -/
def withoutReturn (piece : List Char) : String :=
  String.ofList (if piece.getLast? == some '\r' then piece.dropLast else piece)

theorem textLines_eq {text : String} {pieces : List (List Char)} {last : List Char}
    (hsplit : text.toList.splitOn '\n' = pieces ++ [last]) :
    textLines text = pieces.map withoutReturn ++ [String.ofList last] := by
  rw [textLines, hsplit, List.dropLast_concat, List.getLast?_concat]
  rfl

/-- More of a text without a line break makes the last line longer. -/
theorem splitOn_append_of_notMem (text : List Char) {tail : List Char} (htail : '\n' ∉ tail) :
    ∃ pieces last, text.splitOn '\n' = pieces ++ [last] ∧
      (text ++ tail).splitOn '\n' = pieces ++ [last ++ tail] := by
  induction text with
  | nil => exact ⟨[], [], List.splitOn_nil _, List.splitOn_eq_singleton htail⟩
  | cons c rest ih =>
      obtain ⟨pieces, last, hsplit, hlonger⟩ := ih
      rw [List.cons_append, List.splitOn_cons_eq_if_modifyHead, hsplit,
        List.splitOn_cons_eq_if_modifyHead, hlonger]
      split_ifs
      · exact ⟨[] :: pieces, last, rfl, rfl⟩
      · cases pieces with
        | nil => exact ⟨[], c :: last, rfl, rfl⟩
        | cons piece pieces => exact ⟨(c :: piece) :: pieces, last, rfl, rfl⟩

theorem textLines_join (text other : String) :
    ∃ pieces last, textLines text = pieces ++ [String.ofList last] ∧
      textLines (text ++ "\n" ++ other) = pieces ++ withoutReturn last :: textLines other := by
  obtain ⟨pieces, last, hsplit, -⟩ := @splitOn_append_of_notMem text.toList [] List.not_mem_nil
  obtain ⟨others, otherLast, hother, -⟩ :=
    @splitOn_append_of_notMem other.toList [] List.not_mem_nil
  have hjoined : (text ++ "\n" ++ other).toList.splitOn '\n' =
      (pieces ++ last :: others) ++ [otherLast] := by
    have htext : (text ++ "\n" ++ other).toList = text.toList ++ '\n' :: other.toList := by simp
    rw [htext, List.splitOn_append_cons_self, hsplit, hother]
    simp
  refine ⟨pieces.map withoutReturn, last, textLines_eq hsplit, ?_⟩
  rw [textLines_eq hjoined, textLines_eq hother]
  simp

/-- A carriage return and a line feed together end a line as it stands. -/
theorem textLines_join_return (text other : String) :
    textLines (text ++ "\r\n" ++ other) = textLines text ++ textLines other := by
  have hreturn : '\n' ∉ ['\r'] := by decide
  obtain ⟨pieces, last, hsplit, hlonger⟩ := splitOn_append_of_notMem text.toList hreturn
  obtain ⟨others, otherLast, hother, -⟩ :=
    @splitOn_append_of_notMem other.toList [] List.not_mem_nil
  have hjoined : (text ++ "\r\n" ++ other).toList.splitOn '\n' =
      (pieces ++ (last ++ ['\r']) :: others) ++ [otherLast] := by
    have htext : (text ++ "\r\n" ++ other).toList =
        (text.toList ++ ['\r']) ++ '\n' :: other.toList := by simp
    rw [htext, List.splitOn_append_cons_self, hlonger, hother]
    simp
  rw [textLines_eq hsplit, textLines_eq hjoined, textLines_eq hother]
  simp [withoutReturn]

/-! ### A carriage return at the end of a line -/

theorem takeWhile_concat {p : Char → Bool} {c : Char} (hc : p c = false) (text : List Char) :
    (text ++ [c]).takeWhile p = text.takeWhile p ∧
      (text ++ [c]).dropWhile p = text.dropWhile p ++ [c] := by
  induction text with
  | nil => simp [hc]
  | cons d rest ih =>
      rw [List.cons_append, List.takeWhile_cons, List.takeWhile_cons, List.dropWhile_cons,
        List.dropWhile_cons, ih.1, ih.2]
      split_ifs <;> exact ⟨rfl, rfl⟩

theorem fenceOf_return (line : List Char) :
    fenceOf (String.ofList (line ++ ['\r'])) =
      (fenceOf (String.ofList line)).map fun fence => (fence.1, fence.2 ++ ['\r']) := by
  have hindent : ('\r' == ' ') = false := rfl
  simp only [fenceOf, String.toList_ofList]
  rw [(@takeWhile_concat (· == ' ') '\r' hindent line).2]
  have hlength := (List.dropWhile_suffix (l := line) (· == ' ')).length_le
  cases htext : line.dropWhile (· == ' ') with
  | nil => simp
  | cons delimiter rest =>
      rw [htext] at hlength
      have hdepth : (line ++ ['\r']).length - (delimiter :: rest ++ ['\r']).length =
          line.length - (delimiter :: rest).length := by simp
      rw [hdepth]
      by_cases hdelimiter : ['\x60', '~'].contains delimiter = true
      · have hother : ('\r' == delimiter) = false := by
          rw [List.contains_iff_mem, List.mem_cons, List.mem_singleton] at hdelimiter
          rcases hdelimiter with rfl | rfl <;> rfl
        obtain ⟨hrun, hinfo⟩ := @takeWhile_concat (· == delimiter) '\r' hother (delimiter :: rest)
        have hhead : (delimiter :: rest ++ ['\r']).head? = some delimiter := rfl
        have hhead' : (delimiter :: rest).head? = some delimiter := rfl
        simp only [hhead, hhead', hrun, hinfo]
        split_ifs <;> rfl
      · have hhead : (delimiter :: rest ++ ['\r']).head? = some delimiter := rfl
        have hhead' : (delimiter :: rest).head? = some delimiter := rfl
        simp only [hhead, hhead', hdelimiter, Bool.and_false, Bool.false_and]
        rfl

theorem isClosingFence_return (line : List Char) (fence : Fence) :
    isClosingFence (String.ofList (line ++ ['\r'])) fence = false := by
  rw [isClosingFence, fenceOf_return]
  cases fenceOf (String.ofList line) with
  | none => rfl
  | some opened => simp

theorem quotedLine_test {text : List Char} :
    quotedLine.test text = true ↔
      ∃ blanks rest, text = blanks ++ '>' :: rest ∧ ∀ c ∈ blanks, isTrimmed c = true := by
  rw [show quotedLine = .seq .textStart (.seq (.many isTrimmed) (word ">")) from rfl,
    test_anchored]
  constructor
  · rintro ⟨after, hafter⟩
    obtain ⟨atQuote, hmany, hquote⟩ := List.mem_flatMap.1 hafter
    obtain ⟨blanks, htext, hblanks, -⟩ := mem_runEnds.1 hmany
    obtain ⟨rest, hrest⟩ := exists_mem_ends_word.1 ⟨after, hquote⟩
    exact ⟨blanks, rest, htext.trans (by rw [← hrest]; rfl), hblanks⟩
  · rintro ⟨blanks, rest, rfl, hblanks⟩
    obtain ⟨after, hafter⟩ := (@exists_mem_ends_word ">" ⟨blanks.isEmpty, '>' :: rest⟩).2
      ⟨rest, rfl⟩
    exact ⟨after, List.mem_flatMap.2 ⟨_, mem_runEnds.2 ⟨blanks, rfl, hblanks, rfl⟩, hafter⟩⟩

theorem indentedLine_test {text : List Char} :
    indentedLine.test text = true ↔ "    ".toList <+: text ∨ "\t".toList <+: text := by
  rw [show indentedLine = .seq .textStart (.alt (word "    ") (word "\t")) from rfl, test_anchored]
  simp only [ends, List.mem_append, exists_or, exists_mem_ends_word]

/-- A carriage return at the end makes no quotation and no indentation. -/
theorem skipped_return {line : List Char}
    (hskip : (quotedLine.test (line ++ ['\r']) || indentedLine.test (line ++ ['\r'])) = true) :
    (quotedLine.test line || indentedLine.test line) = true := by
  have hshorter : ∀ {front : List Char}, front <+: line ++ ['\r'] → '\r' ∉ front →
      front <+: line := by
    intro front hfront hreturn
    rcases List.prefix_concat_iff.1 hfront with heq | hinside
    · exact absurd (heq ▸ List.mem_append_right _ (List.mem_singleton_self _)) hreturn
    · exact hinside
  rw [Bool.or_eq_true, quotedLine_test, indentedLine_test] at hskip ⊢
  rcases hskip with ⟨blanks, rest, htext, hblanks⟩ | hindented | hindented
  · left
    rcases List.eq_nil_or_concat' rest with rfl | ⟨others, last, rfl⟩
    · have hlast := congrArg List.getLast? htext
      simp at hlast
    · refine ⟨blanks, others, ?_, hblanks⟩
      rw [← List.cons_append, ← List.append_assoc] at htext
      exact (List.append_inj' htext rfl).1
  · exact .inr (.inl (hshorter hindented (by decide)))
  · exact .inr (.inr (hshorter hindented (by decide)))

theorem isDeclaration_return {line : List Char}
    (hdeclares : isDeclaration (String.ofList line) = true) :
    isDeclaration (String.ofList (line ++ ['\r'])) = true := by
  simp only [isDeclaration, Bool.and_eq_true, Bool.not_eq_true', List.isEmpty_eq_false_iff,
    String.toList_ofList] at hdeclares ⊢
  obtain ⟨hshown, hhead⟩ := hdeclares
  constructor
  · exact Bool.eq_false_iff.2 fun hskip => Bool.eq_false_iff.1 hshown (skipped_return hskip)
  · obtain ⟨after, hafter⟩ := List.exists_mem_of_ne_nil _ hhead
    exact List.ne_nil_of_mem (mem_ends_append rfl hafter ['\r'])

/-- No declaration is readable past a carriage return. -/
theorem isReadable_return {line : List Char}
    (hdeclares : isDeclaration (String.ofList (line ++ ['\r'])) = true) :
    isReadable (String.ofList (line ++ ['\r'])) = false := by
  simp only [isDeclaration, Bool.and_eq_true, Bool.not_eq_true', List.isEmpty_eq_false_iff]
    at hdeclares
  obtain ⟨after, hafter⟩ := List.exists_mem_of_ne_nil _ hdeclares.2
  obtain ⟨key, separator, blanks, hline, hkey, hseparator, -⟩ := split_of_mem_ends hafter
  rw [isReadable, declaredText_of_split hline hkey hseparator]
  rw [String.toList_ofList] at hline
  have hlast := congrArg List.getLast? hline
  generalize blanks ++ after.rest = rest at hlast ⊢
  rw [List.getLast?_concat, List.getLast?_append, List.getLast?_cons, Option.some_or] at hlast
  cases hrest : rest.getLast? with
  | none =>
      rw [hrest] at hlast
      obtain rfl := Option.some_inj.1 hlast
      exact absurd hseparator (by decide)
  | some last =>
      rw [hrest] at hlast
      obtain rfl := Option.some_inj.1 hlast
      exact List.all_eq_false.2 ⟨'\r', List.mem_of_getLast? hrest, by decide⟩

/-! ### Joined texts -/

/-- What the scan of more lines finds does not depend on what was found before. -/
theorem foldl_collect_shift (lines : List String) (fence : Option Fence)
    (values : List TaskClass) (invalidRaw : List String) :
    lines.foldl collectDeclarationLine ⟨fence, values, invalidRaw⟩ =
      let found := lines.foldl collectDeclarationLine ⟨fence, [], []⟩
      ⟨found.fence, values ++ found.values, invalidRaw ++ found.invalidRaw⟩ := by
  induction lines generalizing fence values invalidRaw with
  | nil => simp
  | cons line rest ih =>
      have hstep : ∀ values invalidRaw,
          collectDeclarationLine ⟨fence, values, invalidRaw⟩ line =
            let found := collectDeclarationLine ⟨fence, [], []⟩ line
            ⟨found.fence, values ++ found.values, invalidRaw ++ found.invalidRaw⟩ := by
        intro values invalidRaw
        cases fence with
        | some fence =>
            rw [collectDeclarationLine_fenced, collectDeclarationLine_fenced]
            simp
        | none =>
            cases hfence : openedFence line with
            | some opened =>
                rw [collectDeclarationLine_opening hfence, collectDeclarationLine_opening hfence]
                simp
            | none =>
                rw [collectDeclarationLine_plain hfence, collectDeclarationLine_plain hfence]
                simp
      rw [List.foldl_cons, hstep, ih, List.foldl_cons]
      dsimp only
      rw [ih (collectDeclarationLine ⟨fence, [], []⟩ line).fence
        (collectDeclarationLine ⟨fence, [], []⟩ line).values]
      simp [List.append_assoc]

theorem contribution_eq_none {line : String}
    (hsilent : (isDeclaration line && isReadable line) = false) : contribution line = none := by
  rw [← isSome_contribution] at hsilent
  exact Option.not_isSome_iff_eq_none.1 (Bool.eq_false_iff.1 hsilent)

/-- The carriage return that a line feed takes away with it hides nothing, unless it is in a
declaration. -/
theorem foldl_withoutReturn {pieces : List String} {last : List Char}
    (hclosed : ((pieces ++ [String.ofList last]).foldl collectDeclarationLine
      ⟨none, [], []⟩).fence = none)
    (hreadable : ∀ out, OutsideFences (pieces ++ [String.ofList last]) out → ∀ line ∈ out,
      isDeclaration line = true → isReadable line = true) :
    (pieces ++ [withoutReturn last]).foldl collectDeclarationLine ⟨none, [], []⟩ =
      (pieces ++ [String.ofList last]).foldl collectDeclarationLine ⟨none, [], []⟩ := by
  rw [withoutReturn]
  split_ifs with hreturn
  · obtain ⟨short, rfl⟩ := List.getLast?_eq_some_iff.1 (beq_iff_eq.1 hreturn)
    rw [List.dropLast_concat, List.foldl_append, List.foldl_append]
    rw [List.foldl_append] at hclosed
    simp only [List.foldl_cons, List.foldl_nil] at hclosed ⊢
    obtain ⟨out, hpieces | ⟨front, opening, content, fence, rfl, hfront, hopens, hcontent⟩⟩ :=
      exists_outside pieces
    · rw [foldl_collect_closed hpieces] at hclosed ⊢
      cases hfence : openedFence (String.ofList (short ++ ['\r'])) with
      | some opened =>
          rw [collectDeclarationLine_opening hfence] at hclosed
          cases hclosed
      | none =>
          have hshort : openedFence (String.ofList short) = none := by
            rwa [openedFence, fenceOf_return, Option.map_map] at hfence
          have hlong : isDeclaration (String.ofList (short ++ ['\r'])) = false := by
            refine Bool.eq_false_iff.2 fun hdeclares => ?_
            have hline := hreadable _ (.inl (hpieces.append (.plain hfence .nil))) _
              (List.mem_append_right _ (List.mem_singleton_self _)) hdeclares
            rw [isReadable_return hdeclares] at hline
            cases hline
          have hsame : isDeclaration (String.ofList short) = false :=
            Bool.eq_false_iff.2 fun hdeclares =>
              Bool.eq_false_iff.1 hlong (isDeclaration_return hdeclares)
          have hsilent := contribution_eq_none (Bool.and_eq_false_iff.2 (.inl hlong))
          have hsilent' := contribution_eq_none (Bool.and_eq_false_iff.2 (.inl hsame))
          rw [collectDeclarationLine_plain hshort, collectDeclarationLine_plain hfence]
          simp only [contributedValues, contributedErrors, List.filterMap_cons, List.filterMap_nil,
            hsilent, hsilent']
    · rw [List.foldl_append, foldl_collect_closed hfront, List.foldl_cons,
        collectDeclarationLine_opening hopens, foldl_collect_content hcontent,
        collectDeclarationLine_fenced, isClosingFence_return] at hclosed
      cases hclosed
  · rfl

/-! ### Declarations -/

/-- The values of a declaration, from the highest class down. -/
def sortedClasses (values : List TaskClass) : List TaskClass :=
  values.dedup.insertionSort fun a b => b.order ≤ a.order

def declarationOfClasses : List TaskClass → TicketRiskDeclaration
  | [] => .absent
  | [taskClass] => .declared taskClass
  | first :: others => .conflict first others

/-- What a text declares is in the values and errors that are found in it. -/
def declarationOf (scan : DeclarationScan) : TicketRiskDeclaration :=
  if !scan.invalidRaw.isEmpty then .invalid ("; ".intercalate scan.invalidRaw)
  else declarationOfClasses (sortedClasses scan.values)

theorem parseTicketRiskDeclaration_eq (text : String) :
    parseTicketRiskDeclaration text = declarationOf (collectDeclarationLines text) := by
  rw [parseTicketRiskDeclaration, declarationOf, sortedClasses]
  split_ifs
  · rfl
  · generalize (collectDeclarationLines text).values.dedup.insertionSort
      (fun a b => b.order ≤ a.order) = classes
    rcases classes with _ | ⟨first, _ | ⟨second, rest⟩⟩ <;> rfl

theorem mem_sortedClasses {values : List TaskClass} {taskClass : TaskClass} :
    taskClass ∈ sortedClasses values ↔ taskClass ∈ values := by
  rw [sortedClasses, List.mem_insertionSort, List.mem_dedup]

theorem pairwise_sortedClasses (values : List TaskClass) :
    (sortedClasses values).Pairwise fun a b => b.order ≤ a.order := by
  have : Std.Total fun a b : TaskClass => b.order ≤ a.order :=
    ⟨fun a b => Nat.le_total b.order a.order⟩
  have : IsTrans TaskClass fun a b => b.order ≤ a.order := ⟨fun _ _ _ hab hbc => hbc.trans hab⟩
  exact List.pairwise_insertionSort _ _

theorem foldl_maxTaskClass_first {first : TaskClass} {others : List TaskClass}
    (hothers : ∀ other ∈ others, other.order ≤ first.order) :
    others.foldl maxTaskClass first = first := by
  induction others with
  | nil => rfl
  | cons other rest ih =>
      obtain ⟨hother, hrest⟩ := List.forall_mem_cons.1 hothers
      rw [List.foldl_cons, maxTaskClass, if_pos hother]
      exact ih hrest

theorem kind_declarationOf (scan : DeclarationScan) :
    (declarationOf scan).kind = .invalid ↔ scan.invalidRaw ≠ [] := by
  rw [declarationOf]
  cases scan.invalidRaw with
  | cons raw rest => exact iff_of_true rfl (List.cons_ne_nil _ _)
  | nil =>
      apply iff_of_false _ (not_not.2 rfl)
      rcases sortedClasses scan.values with _ | ⟨first, _ | ⟨second, rest⟩⟩ <;> exact nofun

theorem floor_eq_head? {scan : DeclarationScan} (hvalid : scan.invalidRaw = []) :
    ticketRiskDeclarationFloor (declarationOf scan) = (sortedClasses scan.values).head? := by
  have hsorted := pairwise_sortedClasses scan.values
  rw [declarationOf, hvalid]
  generalize sortedClasses scan.values = classes at hsorted ⊢
  rcases classes with _ | ⟨first, _ | ⟨second, rest⟩⟩
  · rfl
  · rfl
  · exact congrArg some (foldl_maxTaskClass_first (List.pairwise_cons.1 hsorted).1)

theorem floor_eq_none {scan : DeclarationScan} (hvalid : scan.invalidRaw = []) :
    ticketRiskDeclarationFloor (declarationOf scan) = none ↔ scan.values = [] := by
  rw [floor_eq_head? hvalid, List.head?_eq_none_iff]
  simp only [List.eq_nil_iff_forall_not_mem, mem_sortedClasses]

/-- The floor is the greatest of the values. -/
theorem floor_eq_some {scan : DeclarationScan} (hvalid : scan.invalidRaw = [])
    {taskClass : TaskClass} :
    ticketRiskDeclarationFloor (declarationOf scan) = some taskClass ↔
      taskClass ∈ scan.values ∧ ∀ value ∈ scan.values, value.order ≤ taskClass.order := by
  have hsorted := pairwise_sortedClasses scan.values
  rw [floor_eq_head? hvalid]
  simp only [← @mem_sortedClasses scan.values]
  cases hclasses : sortedClasses scan.values with
  | nil => simp
  | cons first others =>
      rw [hclasses] at hsorted
      have hothers := (List.pairwise_cons.1 hsorted).1
      rw [List.head?_cons, Option.some_inj]
      constructor
      · rintro rfl
        exact ⟨List.mem_cons_self, List.forall_mem_cons.2 ⟨Nat.le_refl _, hothers⟩⟩
      · rintro ⟨hmem, hgreatest⟩
        apply TaskClass.order_injective
        apply Nat.le_antisymm (hgreatest first List.mem_cons_self)
        rcases List.mem_cons.1 hmem with rfl | hmem
        · exact Nat.le_refl _
        · exact hothers _ hmem

theorem declarationOf_eq_absent {scan : DeclarationScan} :
    declarationOf scan = .absent ↔ scan.values.length + scan.invalidRaw.length = 0 := by
  have hempty : sortedClasses scan.values = [] ↔ scan.values = [] := by
    simp only [List.eq_nil_iff_forall_not_mem, mem_sortedClasses]
  rw [declarationOf, Nat.add_eq_zero_iff, List.length_eq_zero_iff, List.length_eq_zero_iff,
    ← hempty]
  cases scan.invalidRaw with
  | cons raw rest => simp
  | nil =>
      rcases sortedClasses scan.values with _ | ⟨first, _ | ⟨second, rest⟩⟩ <;>
        simp [declarationOfClasses]

/-- Texts of several declarations: all of them, in order; one error spoils them all, and
otherwise the highest floor wins. -/
structure Joined (front back whole : String) : Prop where
  values : (collectDeclarationLines whole).values =
    (collectDeclarationLines front).values ++ (collectDeclarationLines back).values
  errors : (collectDeclarationLines whole).invalidRaw =
    (collectDeclarationLines front).invalidRaw ++ (collectDeclarationLines back).invalidRaw
  invalid : (parseTicketRiskDeclaration whole).kind = .invalid ↔
    (parseTicketRiskDeclaration front).kind = .invalid ∨
      (parseTicketRiskDeclaration back).kind = .invalid
  floor : (parseTicketRiskDeclaration front).kind ≠ .invalid →
    (parseTicketRiskDeclaration back).kind ≠ .invalid →
      ticketRiskDeclarationFloor (parseTicketRiskDeclaration whole) =
        Option.merge maxTaskClass
          (ticketRiskDeclarationFloor (parseTicketRiskDeclaration front))
          (ticketRiskDeclarationFloor (parseTicketRiskDeclaration back))

/-- The greatest of joined values is the greater of the greatest. -/
theorem floor_append {front back whole : DeclarationScan} (hfront : front.invalidRaw = [])
    (hback : back.invalidRaw = []) (hwhole : whole.invalidRaw = [])
    (hvalues : whole.values = front.values ++ back.values) :
    ticketRiskDeclarationFloor (declarationOf whole) =
      Option.merge maxTaskClass (ticketRiskDeclarationFloor (declarationOf front))
        (ticketRiskDeclarationFloor (declarationOf back)) := by
  cases hfirst : ticketRiskDeclarationFloor (declarationOf front) with
  | none =>
      rw [(floor_eq_none hfront).1 hfirst, List.nil_append] at hvalues
      rw [floor_eq_head? hwhole, hvalues, ← floor_eq_head? hback, Option.merge_none_left]
  | some highest =>
      cases hsecond : ticketRiskDeclarationFloor (declarationOf back) with
      | none =>
          rw [(floor_eq_none hback).1 hsecond, List.append_nil] at hvalues
          rw [floor_eq_head? hwhole, hvalues, ← floor_eq_head? hfront, hfirst]
          rfl
      | some higher =>
          obtain ⟨hmem, hgreatest⟩ := (floor_eq_some hfront).1 hfirst
          obtain ⟨hmem', hgreatest'⟩ := (floor_eq_some hback).1 hsecond
          apply (floor_eq_some hwhole).2
          rw [hvalues]
          constructor
          · rw [maxTaskClass]
            split_ifs
            · exact List.mem_append_left _ hmem
            · exact List.mem_append_right _ hmem'
          · intro value hvalue
            rw [order_maxTaskClass]
            rcases List.mem_append.1 hvalue with hvalue | hvalue
            · exact (hgreatest value hvalue).trans (Nat.le_max_left _ _)
            · exact (hgreatest' value hvalue).trans (Nat.le_max_right _ _)

theorem joined_of_values {front back whole : String}
    (hvalues : (collectDeclarationLines whole).values =
      (collectDeclarationLines front).values ++ (collectDeclarationLines back).values)
    (herrors : (collectDeclarationLines whole).invalidRaw =
      (collectDeclarationLines front).invalidRaw ++ (collectDeclarationLines back).invalidRaw) :
    Joined front back whole := by
  have hinvalid : (parseTicketRiskDeclaration whole).kind = .invalid ↔
      (parseTicketRiskDeclaration front).kind = .invalid ∨
        (parseTicketRiskDeclaration back).kind = .invalid := by
    simp only [parseTicketRiskDeclaration_eq, kind_declarationOf, herrors, ne_eq,
      List.append_eq_nil_iff, not_and_or]
  refine ⟨hvalues, herrors, hinvalid, fun hfront hback => ?_⟩
  have hwhole : (parseTicketRiskDeclaration whole).kind ≠ .invalid := fun hkind =>
    (hinvalid.1 hkind).elim hfront hback
  simp only [parseTicketRiskDeclaration_eq, ne_eq, kind_declarationOf, not_not]
    at hfront hback hwhole
  simp only [parseTicketRiskDeclaration_eq]
  exact floor_append hfront hback hwhole hvalues

theorem joined_of_textLines {front back whole : String} {lines : List String}
    (hclosed : (collectDeclarationLines front).fence = none)
    (hlines : textLines whole = lines ++ textLines back)
    (hsame : lines.foldl collectDeclarationLine ⟨none, [], []⟩ = collectDeclarationLines front) :
    Joined front back whole := by
  have hwhole : collectDeclarationLines whole =
      (textLines back).foldl collectDeclarationLine ⟨none, (collectDeclarationLines front).values,
        (collectDeclarationLines front).invalidRaw⟩ := by
    rw [collectDeclarationLines, hlines, List.foldl_append, hsame, ← hclosed]
  rw [foldl_collect_shift] at hwhole
  apply joined_of_values
  · rw [hwhole]
    rfl
  · rw [hwhole]
    rfl

/-- Every declaration outside fences counts, and a text with closed fences keeps its
declarations in front of any other. -/
structure DeclarationsKept (text : String) : Prop where
  counted : ∀ out, OutsideFences (textLines text) out →
    (collectDeclarationLines text).values.length +
      (collectDeclarationLines text).invalidRaw.length = (out.filter isDeclaration).length
  present : ∀ out, OutsideFences (textLines text) out → ∀ line ∈ out, isDeclaration line = true →
    parseTicketRiskDeclaration text ≠ .absent
  joined : ∀ out, ClosedFences (textLines text) out → ∀ lineBreak ∈ ["\n", "\r\n"], ∀ other,
    Joined text other (text ++ lineBreak ++ other)

theorem collected_of_outside {text : String} {out : List String}
    (houtside : OutsideFences (textLines text) out) :
    (collectDeclarationLines text).values = contributedValues out ∧
      (collectDeclarationLines text).invalidRaw = contributedErrors out := by
  rw [collectDeclarationLines]
  rcases houtside with hclosed |
    ⟨front, opening, content, fence, hlines, hfront, hopens, hcontent⟩
  · rw [foldl_collect_closed hclosed]
    exact ⟨rfl, rfl⟩
  · rw [hlines, List.foldl_append, foldl_collect_closed hfront, List.foldl_cons,
      collectDeclarationLine_opening hopens, foldl_collect_content hcontent]
    exact ⟨rfl, rfl⟩

theorem declarationsKept_iff (text : String) :
    DeclarationsKept text ↔
      ∀ out, OutsideFences (textLines text) out → ∀ line ∈ out, isDeclaration line = true →
        isReadable line = true := by
  have hcount : ∀ out, OutsideFences (textLines text) out →
      (collectDeclarationLines text).values.length +
        (collectDeclarationLines text).invalidRaw.length =
          (out.filter fun line => isDeclaration line && isReadable line).length := by
    intro out hout
    rw [(collected_of_outside hout).1, (collected_of_outside hout).2, length_contributed]
  constructor
  · intro hkept out hout line hline hdeclares
    have hsame := (hcount out hout).symm.trans (hkept.counted out hout)
    have hall : (out.filter isDeclaration).filter isReadable = out.filter isDeclaration := by
      apply (List.filter_sublist).eq_of_length
      rw [List.filter_filter, ← hsame]
      simp only [Bool.and_comm]
    exact List.filter_eq_self.1 hall line (List.mem_filter.2 ⟨hline, hdeclares⟩)
  · intro hreadable
    have hcounted : ∀ out, OutsideFences (textLines text) out →
        (collectDeclarationLines text).values.length +
          (collectDeclarationLines text).invalidRaw.length = (out.filter isDeclaration).length := by
      intro out hout
      rw [hcount out hout]
      apply congrArg List.length
      apply List.filter_congr
      intro line hline
      cases hdeclares : isDeclaration line with
      | true => rw [hreadable out hout line hline hdeclares, Bool.true_and]
      | false => rfl
    refine ⟨hcounted, ?_, ?_⟩
    · intro out hout line hline hdeclares habsent
      rw [parseTicketRiskDeclaration_eq, declarationOf_eq_absent, hcounted out hout,
        List.length_eq_zero_iff] at habsent
      exact absurd (habsent ▸ List.mem_filter.2 ⟨hline, hdeclares⟩) List.not_mem_nil
    · intro out hclosed lineBreak hbreak other
      have hfence : (collectDeclarationLines text).fence = none := by
        rw [collectDeclarationLines, foldl_collect_closed hclosed]
      rw [List.mem_cons, List.mem_singleton] at hbreak
      rcases hbreak with rfl | rfl
      · obtain ⟨pieces, last, hlines, hwhole⟩ := textLines_join text other
        apply @joined_of_textLines _ _ _ (pieces ++ [withoutReturn last]) hfence
        · rw [hwhole, List.append_assoc]
          rfl
        · rw [collectDeclarationLines, hlines] at hfence ⊢
          rw [hlines] at hreadable
          exact foldl_withoutReturn hfence hreadable
      · exact joined_of_textLines hfence (textLines_join_return text other) rfl

/-- A value that a line separator follows. -/
theorem not_declarationsKept : ¬ DeclarationsKept "Risk: HIGH-RISK\u2028(agreed)" := by
  intro hkept
  have hlines : textLines "Risk: HIGH-RISK\u2028(agreed)" = ["Risk: HIGH-RISK\u2028(agreed)"] ∧
      openedFence "Risk: HIGH-RISK\u2028(agreed)" = none := by decide +kernel
  have houtside : OutsideFences (textLines "Risk: HIGH-RISK\u2028(agreed)")
      ["Risk: HIGH-RISK\u2028(agreed)"] := by
    rw [hlines.1]
    exact .inl (.plain hlines.2 .nil)
  exact hkept.present _ houtside _ (List.mem_singleton_self _) (by decide +kernel)
    (by decide +kernel)

end GovernedRuntime.Risk
