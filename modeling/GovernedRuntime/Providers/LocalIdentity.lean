/-
The local identities of reported tests and the tests they name
(`src/providers/assertion-parsers/`, the identity codecs of `src/providers/`).
-/
import GovernedRuntime.Library.Lines
import Mathlib.Data.List.Infix

namespace GovernedRuntime.Providers

/-! ### Identities -/

/-- Separators are written as slashes and one leading `./` is dropped. -/
def normalizeFilePath (filePath : String) : String :=
  let slashed := filePath.toList.map fun c => if c = '\\' then '/' else c
  match slashed with
  | '.' :: '/' :: rest => String.ofList rest
  | _ => String.ofList slashed

/-- Both JavaScript frameworks build their identities alike. -/
def buildScriptLocalId (filePath : String) (ancestorTitles : List String) (title : String) :
    String :=
  let normalized := normalizeFilePath filePath
  let chain := "::".intercalate ancestorTitles
  if chain = "" then normalized ++ "::" ++ title
  else normalized ++ "::" ++ chain ++ "::" ++ title

def buildJestLocalId := buildScriptLocalId

def buildVitestLocalId := buildScriptLocalId

def buildGoLocalId (pkg test : String) : String := pkg ++ "::" ++ test

def buildJUnitLocalId (className methodName : String) : String :=
  className ++ "#" ++ methodName

def buildPytestLocalId (nodeId : String) : String := nodeId

/-- A test as a report names it.  The event stream of Go names tests by non-empty texts. -/
inductive ParsedAssertion
  | junitXml (className methodName : String)
  | pytestJson (nodeId : String)
  | jestJson (filePath : String) (ancestorTitles : List String) (title : String)
  | vitestJson (filePath : String) (ancestorTitles : List String) (title : String)
  | goTestJson (pkg testName : String) (named : testName ≠ "")

namespace ParsedAssertion

def providerId : ParsedAssertion → String
  | junitXml _ _ => "junit"
  | pytestJson _ => "pytest"
  | jestJson _ _ _ => "jest"
  | vitestJson _ _ _ => "vitest"
  | goTestJson _ _ _ => "go_test"

def buildLocalId : ParsedAssertion → String
  | junitXml className methodName => buildJUnitLocalId className methodName
  | pytestJson nodeId => buildPytestLocalId nodeId
  | jestJson filePath ancestorTitles title => buildJestLocalId filePath ancestorTitles title
  | vitestJson filePath ancestorTitles title => buildVitestLocalId filePath ancestorTitles title
  | goTestJson pkg testName _ => buildGoLocalId pkg testName

/-- The same test: equal components, file paths up to their spelling. -/
def SameTest : ParsedAssertion → ParsedAssertion → Prop
  | junitXml className methodName, junitXml className' methodName' =>
      className = className' ∧ methodName = methodName'
  | pytestJson nodeId, pytestJson nodeId' => nodeId = nodeId'
  | jestJson filePath ancestorTitles title, jestJson filePath' ancestorTitles' title' =>
      normalizeFilePath filePath = normalizeFilePath filePath' ∧
        ancestorTitles = ancestorTitles' ∧ title = title'
  | vitestJson filePath ancestorTitles title, vitestJson filePath' ancestorTitles' title' =>
      normalizeFilePath filePath = normalizeFilePath filePath' ∧
        ancestorTitles = ancestorTitles' ∧ title = title'
  | goTestJson pkg testName _, goTestJson pkg' testName' _ => pkg = pkg' ∧ testName = testName'
  | _, _ => False

/-- The separator of the identity can be read in one place only.  A Go test name may end in
the separator: nothing would be left of the name after it. -/
def SoleReading : ParsedAssertion → Prop
  | junitXml className methodName => '#' ∉ className.toList ∧ '#' ∉ methodName.toList
  | pytestJson _ => True
  | jestJson _ _ _ => False
  | vitestJson _ _ _ => False
  | goTestJson pkg testName _ =>
      ¬ [':', ':'] <:+: pkg.toList ++ [':'] ∧ ¬ [':', ':'] <:+: (':' :: testName.toList).dropLast

/-- No other test of the provider has the identity. -/
def NamesOneTest (test : ParsedAssertion) : Prop :=
  ∀ other : ParsedAssertion, other.providerId = test.providerId →
    other.buildLocalId = test.buildLocalId → SameTest test other

end ParsedAssertion

/-! ### Codecs -/

/-- Non-empty parts between doubled colons; the text is split at single ones. -/
def isColonChain : List (List Char) → Bool
  | [] => false
  | [last] => !last.isEmpty
  | part :: gap :: rest => !part.isEmpty && gap.isEmpty && isColonChain rest

/-- `^[^#]+#[^#]+$` -/
def junitLocalIdRe (localId : String) : Bool :=
  match localId.toList.splitOn '#' with
  | [className, methodName] => !className.isEmpty && !methodName.isEmpty
  | _ => false

/-- `^[^:]+::[^:]+$` -/
def goLocalIdRe (localId : String) : Bool :=
  match localId.toList.splitOn ':' with
  | [pkg, gap, testName] => isColonChain [pkg, gap, testName]
  | _ => false

/-- `^[^:]+(::[^:]+)+$` -/
def jsLocalIdRe (localId : String) : Bool :=
  let parts := localId.toList.splitOn ':'
  decide (2 < parts.length) && isColonChain parts

/-- What the codec of the test's provider accepts. -/
def ParsedAssertion.validateLocalId : ParsedAssertion → String → Bool
  | junitXml _ _ => junitLocalIdRe
  | goTestJson _ _ _ => goLocalIdRe
  | pytestJson _ => jsLocalIdRe
  | jestJson _ _ _ => jsLocalIdRe
  | vitestJson _ _ _ => jsLocalIdRe

/-! ### Texts around a separator -/

section Readings

variable {α : Type}

theorem sole_separator_iff [DecidableEq α] {separator : α} {left right : List α} :
    (∀ left' right', left' ++ separator :: right' = left ++ separator :: right →
      left' = left ∧ right' = right) ↔ separator ∉ left ∧ separator ∉ right := by
  constructor
  · intro hsole
    constructor
    · intro hmem
      obtain ⟨before, after, rfl⟩ := List.append_of_mem hmem
      have hread := (hsole before (after ++ separator :: right) (by simp)).1
      simpa using congrArg List.length hread
    · intro hmem
      obtain ⟨before, after, rfl⟩ := List.append_of_mem hmem
      have hread := (hsole (left ++ separator :: before) after (by simp)).1
      simpa using congrArg List.length hread
  · rintro ⟨hleft, hright⟩ left' right' heq
    have hcount := congrArg (List.count separator) heq
    simp only [List.count_append, List.count_cons_self, List.count_eq_zero_of_not_mem hleft,
      List.count_eq_zero_of_not_mem hright] at hcount
    have hright' : separator ∉ right' := List.count_eq_zero.1 (by omega)
    exact Library.append_cons_injective hright' hright heq

/-- The same for a separator that is written twice, when something must follow it. -/
theorem sole_double_iff {mark : α} {left right : List α} (hright : right ≠ []) :
    (∀ left' right', right' ≠ [] →
      left' ++ mark :: mark :: right' = left ++ mark :: mark :: right →
      left' = left ∧ right' = right) ↔
      ¬ [mark, mark] <:+: left ++ [mark] ∧ ¬ [mark, mark] <:+: (mark :: right).dropLast := by
  constructor
  · intro hsole
    constructor
    · rintro ⟨before, after, heq⟩
      obtain rfl | ⟨after, last, rfl⟩ := List.eq_nil_or_concat' after
      · have hends : (before ++ [mark]) ++ [mark] = left ++ [mark] := by simpa using heq
        obtain rfl := (List.append_inj' hends rfl).1
        have hread := (hsole before (mark :: right) (List.cons_ne_nil _ _) (by simp)).1
        simpa using congrArg List.length hread
      · have hends : (before ++ mark :: mark :: after) ++ [last] = left ++ [mark] := by
          simpa using heq
        obtain rfl := (List.append_inj' hends rfl).1
        have hread := (hsole before (after ++ mark :: mark :: right) (by simp) (by simp)).1
        simpa using congrArg List.length hread
    · rintro ⟨before, after, heq⟩
      obtain ⟨front, last, rfl⟩ := (List.eq_nil_or_concat' right).resolve_left hright
      have hfront : before ++ mark :: mark :: after = mark :: front := by
        rw [← List.cons_append, List.dropLast_concat] at heq
        simpa using heq
      have hread := (hsole (left ++ mark :: before) (after ++ [last]) (by simp)
        (by simpa using congrArg (fun text => left ++ mark :: (text ++ [last])) hfront)).1
      simpa using congrArg List.length hread
  · rintro ⟨hleft, hdrop⟩ left' right' hne heq
    obtain ⟨more, rfl, hmore⟩ | ⟨more, rfl, hmore⟩ := List.append_eq_append_iff.1 heq
    · cases more with
      | nil => simpa using hmore
      | cons head more =>
          obtain ⟨rfl, htail⟩ := List.cons.inj hmore
          refine absurd ?_ hleft
          cases more with
          | nil => exact ⟨left', [], by simp⟩
          | cons second more =>
              obtain ⟨rfl, -⟩ := List.cons.inj htail
              exact ⟨left', more ++ [mark], by simp⟩
    · cases more with
      | nil => simpa [eq_comm] using hmore
      | cons head more =>
          obtain ⟨rfl, htail⟩ := List.cons.inj hmore
          refine absurd ?_ hdrop
          obtain ⟨front, last, rfl⟩ := (List.eq_nil_or_concat' right').resolve_left hne
          have hlast : mark :: right = (more ++ mark :: mark :: front) ++ [last] := by
            simpa using htail
          rw [hlast, List.dropLast_concat]
          exact ⟨more, front, by simp⟩

theorem length_splitOn [DecidableEq α] (separator : α) (text : List α) :
    (text.splitOn separator).length = text.count separator + 1 := by
  induction text with
  | nil => rfl
  | cons item text ih =>
      rw [List.splitOn_cons_eq_if_modifyHead, List.count_cons, ← Nat.add_right_comm, ← ih]
      split_ifs <;> simp

/-- The first entry, the third, and so on. -/
def everyOther : List α → List α
  | part :: _ :: rest => part :: everyOther rest
  | parts => parts

/-- Parts without the mark are read back from what doubled marks join. -/
theorem everyOther_splitOn [DecidableEq α] {mark : α} {parts : List (List α)} (hne : parts ≠ [])
    (hclean : ∀ part ∈ parts, mark ∉ part) :
    everyOther (([mark, mark].intercalate parts).splitOn mark) = parts := by
  induction parts with
  | nil => exact absurd rfl hne
  | cons part parts ih =>
      obtain ⟨hpart, hrest⟩ := List.forall_mem_cons.1 hclean
      cases parts with
      | nil =>
          rw [List.intercalate_singleton, List.splitOn_eq_singleton hpart]
          rfl
      | cons second parts =>
          rw [List.intercalate_cons_cons, List.append_assoc, List.cons_append,
            List.splitOn_append_cons_self_of_not_mem hpart, List.singleton_append,
            List.splitOn_cons_eq_if_modifyHead, if_pos (beq_self_eq_true _), everyOther,
            ih (List.cons_ne_nil _ _) hrest]

end Readings

/-! ### Which tests are named -/

theorem toList_buildGoLocalId (pkg test : String) :
    (buildGoLocalId pkg test).toList = pkg.toList ++ ':' :: ':' :: test.toList := by
  simp only [buildGoLocalId, String.toList_append, List.append_assoc]
  rfl

theorem toList_buildJUnitLocalId (className methodName : String) :
    (buildJUnitLocalId className methodName).toList =
      className.toList ++ '#' :: methodName.toList := by
  simp only [buildJUnitLocalId, String.toList_append, List.append_assoc]
  rfl

/-- With titles that are not empty the identity joins the path, the chain and the title. -/
theorem buildScriptLocalId_eq_intercalate {filePath title : String}
    {ancestorTitles : List String} (hnamed : "" ∉ ancestorTitles) :
    buildScriptLocalId filePath ancestorTitles title =
      "::".intercalate (normalizeFilePath filePath :: (ancestorTitles ++ [title])) := by
  rw [String.intercalate_cons_of_ne_nil (by simp)]
  cases ancestorTitles with
  | nil => simp [buildScriptLocalId]
  | cons first rest =>
      have hfirst : first ≠ "" := fun heq => hnamed (heq ▸ List.mem_cons_self)
      rw [buildScriptLocalId, if_neg (by cases rest <;> simp [hfirst]),
        String.intercalate_append_of_ne_nil (List.cons_ne_nil _ _) (List.cons_ne_nil _ _)]
      simp [String.append_assoc]

/-- A nested test shares its identity with the top-level test of the whole chain, a top-level
one with that in a block of empty title. -/
theorem buildScriptLocalId_shared (filePath : String) (ancestorTitles : List String)
    (title : String) :
    ∃ ancestorTitles' title', ancestorTitles' ≠ ancestorTitles ∧
      buildScriptLocalId filePath ancestorTitles' title' =
        buildScriptLocalId filePath ancestorTitles title := by
  by_cases hchain : "::".intercalate ancestorTitles = ""
  · by_cases htop : ancestorTitles = []
    · subst htop
      exact ⟨[""], title, List.cons_ne_nil _ _, rfl⟩
    · refine ⟨[], title, Ne.symm htop, ?_⟩
      simp [buildScriptLocalId, hchain]
  · refine ⟨[], "::".intercalate ancestorTitles ++ "::" ++ title, ?_, ?_⟩
    · rintro rfl
      exact hchain rfl
    · simp [buildScriptLocalId, hchain, String.append_assoc]

namespace ParsedAssertion

theorem namesOneTest_junitXml (className methodName : String) :
    NamesOneTest (junitXml className methodName) ↔ SoleReading (junitXml className methodName) := by
  rw [SoleReading, ← sole_separator_iff]
  constructor
  · intro hone left right heq
    have hsame := hone (junitXml (String.ofList left) (String.ofList right)) rfl (by
      apply String.toList_injective
      simpa only [buildLocalId, toList_buildJUnitLocalId, String.toList_ofList] using heq)
    obtain ⟨rfl, rfl⟩ := hsame
    simp
  · intro hsole other hprovider hid
    cases other with
    | junitXml className' methodName' =>
        have htext := congrArg String.toList hid
        simp only [buildLocalId, toList_buildJUnitLocalId] at htext
        obtain ⟨hclass, hmethod⟩ := hsole _ _ htext
        exact ⟨(String.toList_injective hclass).symm, (String.toList_injective hmethod).symm⟩
    | _ => simp [providerId] at hprovider

theorem namesOneTest_goTestJson (pkg testName : String) (named : testName ≠ "") :
    NamesOneTest (goTestJson pkg testName named) ↔
      SoleReading (goTestJson pkg testName named) := by
  have hnamed : testName.toList ≠ [] := by simpa using named
  rw [SoleReading, ← sole_double_iff hnamed]
  constructor
  · intro hone left right hright heq
    have hsame := hone
      (goTestJson (String.ofList left) (String.ofList right) (by simpa using hright)) rfl (by
        apply String.toList_injective
        simpa only [buildLocalId, toList_buildGoLocalId, String.toList_ofList] using heq)
    obtain ⟨rfl, rfl⟩ := hsame
    simp
  · intro hsole other hprovider hid
    cases other with
    | goTestJson pkg' testName' named' =>
        have htext := congrArg String.toList hid
        simp only [buildLocalId, toList_buildGoLocalId] at htext
        obtain ⟨hpkg, htest⟩ := hsole _ _ (by simpa using named') htext
        exact ⟨(String.toList_injective hpkg).symm, (String.toList_injective htest).symm⟩
    | _ => simp [providerId] at hprovider

theorem namesOneTest_pytestJson (nodeId : String) : NamesOneTest (pytestJson nodeId) := by
  intro other hprovider hid
  cases other with
  | pytestJson nodeId' => exact hid.symm
  | _ => simp [providerId] at hprovider

theorem not_namesOneTest_jestJson (filePath : String) (ancestorTitles : List String)
    (title : String) : ¬ NamesOneTest (jestJson filePath ancestorTitles title) := by
  intro hone
  obtain ⟨ancestorTitles', title', hne, hid⟩ :=
    buildScriptLocalId_shared filePath ancestorTitles title
  exact hne (hone (jestJson filePath ancestorTitles' title') rfl hid).2.1.symm

theorem not_namesOneTest_vitestJson (filePath : String) (ancestorTitles : List String)
    (title : String) : ¬ NamesOneTest (vitestJson filePath ancestorTitles title) := by
  intro hone
  obtain ⟨ancestorTitles', title', hne, hid⟩ :=
    buildScriptLocalId_shared filePath ancestorTitles title
  exact hne (hone (vitestJson filePath ancestorTitles' title') rfl hid).2.1.symm

/-- No other test has the identity of a test exactly when its separator has one reading. -/
theorem namesOneTest_iff (test : ParsedAssertion) : NamesOneTest test ↔ SoleReading test := by
  cases test with
  | junitXml className methodName => exact namesOneTest_junitXml className methodName
  | goTestJson pkg testName named => exact namesOneTest_goTestJson pkg testName named
  | pytestJson nodeId => exact iff_of_true (namesOneTest_pytestJson nodeId) trivial
  | jestJson filePath ancestorTitles title =>
      exact iff_of_false (not_namesOneTest_jestJson filePath ancestorTitles title) not_false
  | vitestJson filePath ancestorTitles title =>
      exact iff_of_false (not_namesOneTest_vitestJson filePath ancestorTitles title) not_false

/-- An identity that the JUnit codec accepts names one test. -/
theorem namesOneTest_of_junit_accepted {className methodName : String}
    (haccepted : (junitXml className methodName).validateLocalId
      (junitXml className methodName).buildLocalId = true) :
    NamesOneTest (junitXml className methodName) := by
  rw [namesOneTest_junitXml, SoleReading]
  simp only [validateLocalId, buildLocalId, junitLocalIdRe] at haccepted
  split at haccepted
  case h_2 => cases haccepted
  rename_i hsplit
  -- two parts leave no separator but the one between the names
  have hcount := length_splitOn '#' (buildJUnitLocalId className methodName).toList
  rw [hsplit, toList_buildJUnitLocalId] at hcount
  simp only [List.count_append, List.count_cons_self, List.length_cons,
    List.length_nil] at hcount
  exact ⟨List.count_eq_zero.1 (by omega), List.count_eq_zero.1 (by omega)⟩

theorem namesOneTest_of_go_accepted {pkg testName : String} {named : testName ≠ ""}
    (haccepted : (goTestJson pkg testName named).validateLocalId
      (goTestJson pkg testName named).buildLocalId = true) :
    NamesOneTest (goTestJson pkg testName named) := by
  rw [namesOneTest_goTestJson, SoleReading]
  simp only [validateLocalId, buildLocalId, goLocalIdRe] at haccepted
  split at haccepted
  case h_2 => cases haccepted
  rename_i hsplit
  have hcount := length_splitOn ':' (buildGoLocalId pkg testName).toList
  rw [hsplit, toList_buildGoLocalId] at hcount
  simp only [List.count_append, List.count_cons_self, List.length_cons,
    List.length_nil] at hcount
  have hpkg : pkg.toList.count ':' = 0 := by omega
  have htest : testName.toList.count ':' = 0 := by omega
  refine ⟨fun hwithin => ?_, fun hwithin => ?_⟩
  · have hcount := hwithin.sublist.count_le ':'
    simp [hpkg] at hcount
  · have hcount := (hwithin.sublist.trans (List.dropLast_sublist _)).count_le ':'
    simp [htest] at hcount

/-- Of the identities that their codecs accept, those of JUnit, Go and pytest name one test. -/
theorem namesOneTest_iff_of_accepted {test : ParsedAssertion}
    (haccepted : test.validateLocalId test.buildLocalId = true) :
    NamesOneTest test ↔ test.providerId ≠ "jest" ∧ test.providerId ≠ "vitest" := by
  cases test with
  | junitXml className methodName =>
      simpa [providerId] using namesOneTest_of_junit_accepted haccepted
  | goTestJson pkg testName named =>
      simpa [providerId] using namesOneTest_of_go_accepted haccepted
  | _ => simp [namesOneTest_iff, SoleReading, providerId]

theorem namesOneTest_accepted_junit : NamesOneTest (junitXml "UserTest" "rejects") :=
  (namesOneTest_iff_of_accepted (by decide +kernel)).2 (by decide)

end ParsedAssertion

/-- The parts of a JavaScript identity without colons and empty ancestor titles. -/
theorem everyOther_buildScriptLocalId {filePath title : String} {ancestorTitles : List String}
    (hplain : ∀ text ∈ normalizeFilePath filePath :: title :: ancestorTitles, ':' ∉ text.toList)
    (hnamed : "" ∉ ancestorTitles) :
    everyOther ((buildScriptLocalId filePath ancestorTitles title).toList.splitOn ':') =
      (normalizeFilePath filePath :: (ancestorTitles ++ [title])).map String.toList := by
  rw [buildScriptLocalId_eq_intercalate hnamed, String.toList_intercalate]
  refine everyOther_splitOn (List.cons_ne_nil _ _) ?_
  simpa [or_imp, forall_and, and_comm] using hplain

/-- Among titles that are not empty and have no colon the JavaScript identities differ. -/
theorem buildScriptLocalId_injective {filePath filePath' title title' : String}
    {ancestorTitles ancestorTitles' : List String}
    (hplain : ∀ text ∈ normalizeFilePath filePath :: title :: ancestorTitles, ':' ∉ text.toList)
    (hplain' : ∀ text ∈ normalizeFilePath filePath' :: title' :: ancestorTitles',
      ':' ∉ text.toList)
    (hnamed : "" ∉ ancestorTitles) (hnamed' : "" ∉ ancestorTitles')
    (heq : buildScriptLocalId filePath ancestorTitles title =
      buildScriptLocalId filePath' ancestorTitles' title') :
    normalizeFilePath filePath = normalizeFilePath filePath' ∧
      ancestorTitles = ancestorTitles' ∧ title = title' := by
  have hparts := everyOther_buildScriptLocalId hplain hnamed
  rw [heq, everyOther_buildScriptLocalId hplain' hnamed'] at hparts
  have htexts := List.map_injective_iff.2 (fun _ _ => String.toList_injective) hparts.symm
  obtain ⟨hpath, htitles⟩ := List.cons.inj htexts
  obtain ⟨hancestors, htitle⟩ := List.append_inj' htitles rfl
  exact ⟨hpath, hancestors, List.singleton_inj.1 htitle⟩

/-- A nested test and a top-level one with an identity that the codec accepts. -/
theorem nested_and_top_level_share_localId :
    ∃ nested topLevel : ParsedAssertion, nested.providerId = topLevel.providerId ∧
      ¬ nested.SameTest topLevel ∧ nested.buildLocalId = topLevel.buildLocalId ∧
      nested.validateLocalId nested.buildLocalId = true := by
  refine ⟨.jestJson "src/user.test.ts" ["create"] "rejects", .jestJson "src/user.test.ts" []
    "create::rejects", rfl, ?_, rfl, by decide +kernel⟩
  rintro ⟨-, htitles, -⟩
  cases htitles

end GovernedRuntime.Providers
