/-
The normal form of repository paths (`src/state/repository-path.ts`): which location a
path leads to, and when classifying the normal form gives it back.
-/
import GovernedRuntime.State.RepositoryPath
import Mathlib.Algebra.GroupWithZero.Nat

namespace GovernedRuntime.State

open GovernedRuntime.Activation (isTrimmed trim)
open GovernedRuntime.Library
open GovernedRuntime.Risk (pathSegments)

/-! ### Where a path leads -/

/-- A segment that names an entry of a directory. -/
def isNamed (segment : String) : Bool := segment != "" && segment != "." && segment != ".."

/-- One step of a walk: the parent of the root is the root. -/
def enter (location : List String) (segment : String) : List String :=
  if isNamed segment then location ++ [segment]
  else if segment == ".." then location.dropLast
  else location

/-- The entry below the repository root that a path leads to. -/
def location (value : String) : List String := (pathSegments (trim value)).foldl enter []

/-- On some front of the walk more steps lead up than lead down. -/
def Escapes (segments : List String) : Prop :=
  ∃ front, front <+: segments ∧ (front.filter isNamed).length < front.count ".."

/-! ### The stack of the source -/

theorem resolveSegments_cons (resolved : List String) (segment : String) (rest : List String) :
    resolveSegments resolved (segment :: rest) =
      if segment = ".." ∧ resolved = [] then none
      else resolveSegments (enter resolved segment) rest := by
  rw [resolveSegments, enter, isNamed]
  by_cases hup : segment = ".."
  · subst hup
    cases resolved <;> rfl
  · by_cases hskip : segment = "" ∨ segment = "."
    · rcases hskip with rfl | rfl <;> rfl
    · rw [not_or] at hskip
      simp [hup, hskip]

/-- What is left of a path is where it leads. -/
theorem resolveSegments_eq_foldl {segments resolved out : List String}
    (hout : resolveSegments resolved segments = some out) :
    out = segments.foldl enter resolved := by
  induction segments generalizing resolved with
  | nil => exact (Option.some_inj.1 hout).symm
  | cons segment rest ih =>
      rw [resolveSegments_cons] at hout
      split_ifs at hout
      exact ih hout

theorem length_enter (resolved : List String) (segment : String) :
    (enter resolved segment).length =
      resolved.length + (if isNamed segment then 1 else 0) - (if segment = ".." then 1 else 0) := by
  rw [enter]
  by_cases hnamed : isNamed segment = true
  · have hup : segment ≠ ".." := by
      simp only [isNamed, Bool.and_eq_true, bne_iff_ne] at hnamed
      exact hnamed.2
    simp [hnamed, hup]
  · by_cases hup : segment = ".."
    · subst hup
      have hnot : isNamed ".." = false := rfl
      simp [hnot]
    · simp [hnamed, hup]

/-- The stack runs empty exactly on a front with more steps up than names, those on the
stack included. -/
theorem resolveSegments_eq_none_iff {segments resolved : List String} :
    resolveSegments resolved segments = none ↔
      ∃ front, front <+: segments ∧
        resolved.length + (front.filter isNamed).length < front.count ".." := by
  induction segments generalizing resolved with
  | nil =>
      constructor
      · exact nofun
      · rintro ⟨front, hfront, hlt⟩
        rw [List.prefix_nil.1 hfront] at hlt
        exact absurd hlt (Nat.not_lt_zero _)
  | cons segment rest ih =>
      have hcounts : ∀ front : List String,
          ((segment :: front).filter isNamed).length =
              (if isNamed segment then 1 else 0) + (front.filter isNamed).length ∧
            (segment :: front).count ".." = front.count ".." + if segment = ".." then 1 else 0 := by
        intro front
        rw [List.filter_cons, List.count_cons]
        constructor
        · split <;> simp [Nat.add_comm]
        · simp only [beq_iff_eq]
      have hnotBoth : isNamed segment = true → segment ≠ ".." := by
        rintro hnamed rfl
        cases hnamed
      rw [resolveSegments_cons]
      split_ifs with hempty
      · obtain ⟨rfl, rfl⟩ := hempty
        refine iff_of_true rfl ⟨[".."], List.prefix_append [".."] rest, by decide⟩
      · rw [ih]
        constructor
        · rintro ⟨front, hfront, hlt⟩
          refine ⟨segment :: front, List.cons_prefix_cons.2 ⟨rfl, hfront⟩, ?_⟩
          rw [length_enter] at hlt
          rw [(hcounts front).1, (hcounts front).2]
          split_ifs at hlt ⊢ <;> omega
        · rintro ⟨front, hfront, hlt⟩
          cases front with
          | nil => exact absurd hlt (Nat.not_lt_zero _)
          | cons head front =>
              obtain ⟨rfl, hrest⟩ := List.cons_prefix_cons.1 hfront
              refine ⟨front, hrest, ?_⟩
              rw [length_enter]
              rw [(hcounts front).1, (hcounts front).2] at hlt
              have hpos : head = ".." → resolved.length ≠ 0 := fun hup hzero =>
                hempty ⟨hup, List.eq_nil_of_length_eq_zero hzero⟩
              split_ifs at hlt ⊢ with hnamed hup hup
              · exact absurd hup (hnotBoth hnamed)
              · omega
              · have := hpos hup
                omega
              · omega

/-! ### Normal forms -/

/-- A name that a usable path leaves behind. -/
structure NormalName (segment : String) : Prop where
  named : isNamed segment = true
  noSlash : '/' ∉ segment.toList
  noBackslash : '\\' ∉ segment.toList
  noNul : '\x00' ∉ segment.toList

theorem NormalName.ne_nil {segment : String} (hname : NormalName segment) :
    segment.toList ≠ [] := by
  intro hnil
  rw [String.toList_eq_nil_iff] at hnil
  subst hnil
  cases hname.named

theorem forall_mem_foldl_enter {P : String → Prop} {segments resolved : List String}
    (hsegments : ∀ segment ∈ segments, isNamed segment = true → P segment)
    (hresolved : ∀ segment ∈ resolved, P segment) :
    ∀ segment ∈ segments.foldl enter resolved, P segment := by
  induction segments generalizing resolved with
  | nil => exact hresolved
  | cons segment rest ih =>
      obtain ⟨hsegment, hrest⟩ := List.forall_mem_cons.1 hsegments
      refine ih hrest ?_
      rw [enter]
      split_ifs with hnamed
      · exact List.forall_mem_append.2 ⟨hresolved, List.forall_mem_singleton.2 (hsegment hnamed)⟩
      · exact fun other hmem => hresolved other (List.dropLast_subset _ hmem)
      · exact hresolved

theorem mem_pathSegments {value segment : String} (hmem : segment ∈ pathSegments value) :
    '/' ∉ segment.toList ∧ ∀ c ∈ segment.toList, c ∈ value.toList := by
  obtain ⟨piece, hpiece, rfl⟩ := List.mem_map.1 hmem
  rw [String.toList_ofList]
  exact ⟨notMem_of_mem_splitOn hpiece, fun _ => mem_of_mem_splitOn hpiece⟩

theorem normalName_of_location {value : String} (husable : isUnusablePath (trim value) = false) :
    ∀ name ∈ location value, NormalName name := by
  simp only [isUnusablePath, Bool.or_eq_false_iff] at husable
  have hbackslash : '\\' ∉ (trim value).toList := by simpa using husable.1.2
  have hnul : '\x00' ∉ (trim value).toList := by simpa using husable.2
  apply @forall_mem_foldl_enter NormalName _ [] _ fun _ hmem => absurd hmem List.not_mem_nil
  intro segment hmem hnamed
  obtain ⟨hslash, hinside⟩ := mem_pathSegments hmem
  exact ⟨hnamed, hslash, fun hback => hbackslash (hinside _ hback), fun hback =>
    hnul (hinside _ hback)⟩

/-- The three answers, in terms of where the path leads. -/
theorem classifyRepositoryPath_eq (value : String) :
    classifyRepositoryPath value =
      if isUnusablePath (trim value) then .invalid
      else if resolveSegments [] (pathSegments (trim value)) = none then .escapesRepository
      else if location value = [] then .invalid
      else .valid ("/".intercalate (location value)) := by
  have hleads : ∀ out, resolveSegments [] (pathSegments (trim value)) = some out →
      location value = out := fun _ hout => (resolveSegments_eq_foldl hout).symm
  rw [classifyRepositoryPath]
  generalize pathSegments (trim value) = segments at hleads ⊢
  generalize isUnusablePath (trim value) = unusable
  generalize location value = led at hleads ⊢
  cases unusable with
  | true => rfl
  | false =>
      cases hresolve : resolveSegments [] segments with
      | none => rfl
      | some out =>
          obtain rfl := hleads out hresolve
          cases led with
          | nil => rfl
          | cons first rest => simp

theorem classify_valid_iff {value path : String} :
    classifyRepositoryPath value = .valid path ↔
      isUnusablePath (trim value) = false ∧ ¬ Escapes (pathSegments (trim value)) ∧
        location value ≠ [] ∧ path = "/".intercalate (location value) := by
  have hescapes : Escapes (pathSegments (trim value)) ↔
      resolveSegments [] (pathSegments (trim value)) = none := by
    rw [resolveSegments_eq_none_iff]
    simp [Escapes]
  rw [classifyRepositoryPath_eq, hescapes]
  split_ifs with hunusable hnone hempty
  · simp [hunusable]
  · simp [hnone]
  · simp [hempty]
  · simp [hunusable, hnone, hempty, eq_comm]

theorem classify_escapes_iff {value : String} :
    classifyRepositoryPath value = .escapesRepository ↔
      isUnusablePath (trim value) = false ∧ Escapes (pathSegments (trim value)) := by
  have hescapes : Escapes (pathSegments (trim value)) ↔
      resolveSegments [] (pathSegments (trim value)) = none := by
    rw [resolveSegments_eq_none_iff]
    simp [Escapes]
  rw [classifyRepositoryPath_eq, hescapes]
  split_ifs with hunusable hnone hempty
  · simp [hunusable]
  · simp [hunusable, hnone]
  · simp [hnone]
  · simp [hnone]

/-! ### Joined names -/

theorem join_cons (first : String) (rest : List String) :
    ∃ more, ("/".intercalate (first :: rest)).toList = first.toList ++ more ∧
      (more = [] ∨ more.head? = some '/') := by
  rw [toList_joined]
  cases rest with
  | nil => exact ⟨[], by simp, .inl rfl⟩
  | cons second rest => exact ⟨_, by simp; rfl, .inr rfl⟩

theorem join_concat (front : List String) (last : String) :
    ∃ more, ("/".intercalate (front ++ [last])).toList = more ++ last.toList := by
  rw [toList_joined]
  induction front with
  | nil => exact ⟨[], by simp⟩
  | cons first front ih =>
      obtain ⟨more, hmore⟩ := ih
      refine ⟨first.toList ++ '/' :: more, ?_⟩
      rw [List.cons_append, List.map_cons, List.intercalate_cons_of_ne_nil (by simp), hmore]
      simp

theorem pathSegments_join {names : List String} (hne : names ≠ [])
    (hslash : ∀ name ∈ names, '/' ∉ name.toList) :
    pathSegments ("/".intercalate names) = names := by
  rw [pathSegments, toList_joined, List.splitOn_intercalate '/'
    (List.forall_mem_map.2 hslash) (by simpa using hne), List.map_map]
  simp [Function.comp_def]

/-- A scheme ends before the first slash. -/
theorem hasScheme_append {front more : List Char} (hmore : more = [] ∨ more.head? = some '/')
    (hfront : front ≠ []) : hasScheme (front ++ more) = hasScheme front := by
  cases front with
  | nil => exact absurd rfl hfront
  | cons head front =>
      rw [List.cons_append, hasScheme, hasScheme]
      congr 1
      rcases hmore with rfl | hslash
      · rw [List.append_nil]
      · obtain ⟨rest, rfl⟩ : ∃ rest, more = '/' :: rest := by
          cases more with
          | nil => cases hslash
          | cons c rest => exact ⟨rest, by rw [Option.some_inj.1 hslash]⟩
        induction front with
        | nil => rfl
        | cons c front ih =>
            rw [List.cons_append, List.dropWhile_cons, List.dropWhile_cons]
            split
            · exact ih (List.cons_ne_nil _ _)
            · rfl

theorem dropWhile_eq_self_iff_head? {p : Char → Bool} {chars : List Char} :
    chars.dropWhile p = chars ↔ ∀ c ∈ chars.head?, p c = false := by
  constructor
  · intro hdrop c hc
    have hnot := List.head?_dropWhile_not p chars
    rw [hdrop, hc] at hnot
    exact hnot
  · intro hhead
    cases chars with
    | nil => rfl
    | cons c rest => rw [List.dropWhile_cons, hhead c rfl, if_neg Bool.false_ne_true]

theorem rdropWhile_eq_self_iff_getLast? {p : Char → Bool} {chars : List Char} :
    chars.rdropWhile p = chars ↔ ∀ c ∈ chars.getLast?, p c = false := by
  rw [List.rdropWhile, List.reverse_eq_iff, dropWhile_eq_self_iff_head?, List.head?_reverse]

theorem trim_eq_self_iff {text : String} :
    trim text = text ↔
      (∀ c ∈ text.toList.head?, isTrimmed c = false) ∧
        ∀ c ∈ text.toList.getLast?, isTrimmed c = false := by
  rw [← dropWhile_eq_self_iff_head?, ← rdropWhile_eq_self_iff_getLast?]
  constructor
  · intro htrim
    have hchars : (text.toList.dropWhile isTrimmed).rdropWhile isTrimmed = text.toList := by
      rw [trim] at htrim
      simpa using congrArg String.toList htrim
    rw [← hchars]
    exact ⟨Activation.rdropWhile_dropWhile_fixed _ _, List.rdropWhile_idempotent _ _⟩
  · rintro ⟨hfront, hback⟩
    rw [trim, hfront, hback, String.ofList_toList]

theorem trim_eq_self_of_length {text : String} (hlength : text.length ≤ (trim text).length) :
    trim text = text := by
  have hinside : (trim text).toList <:+: text.toList := by
    rw [trim, String.toList_ofList]
    exact (List.rdropWhile_prefix _ _).isInfix.trans (List.dropWhile_suffix _).isInfix
  rw [← String.length_toList, ← String.length_toList] at hlength
  exact String.toList_inj.1 (hinside.eq_of_length_le hlength)

/-! ### No walk is longer than its path -/

/-- The characters of a path with these segments, and one more. -/
def weight (segments : List String) : Nat := (segments.map fun segment => segment.length + 1).sum

theorem weight_append (segments others : List String) :
    weight (segments ++ others) = weight segments + weight others := by
  simp [weight]

theorem weight_foldl_enter_le (segments resolved : List String) :
    weight (segments.foldl enter resolved) ≤ weight resolved + weight segments := by
  induction segments generalizing resolved with
  | nil => exact Nat.le_refl _
  | cons segment rest ih =>
      have hcons : weight (segment :: rest) = segment.length + 1 + weight rest := by simp [weight]
      have henter : weight (enter resolved segment) ≤ weight resolved + (segment.length + 1) := by
        rw [enter]
        split_ifs
        · simp [weight]
        · rcases List.eq_nil_or_concat' resolved with rfl | ⟨front, last, rfl⟩
          · exact Nat.le_add_right _ _
          · rw [List.dropLast_concat, weight_append]
            omega
        · exact Nat.le_add_right _ _
      have hrest := ih (enter resolved segment)
      rw [List.foldl_cons, hcons]
      omega

theorem length_join {names : List String} (hne : names ≠ []) :
    ("/".intercalate names).length + 1 = weight names := by
  induction names with
  | nil => exact absurd rfl hne
  | cons first rest ih =>
      cases rest with
      | nil => simp [weight]
      | cons second rest =>
          have hrest := ih (List.cons_ne_nil _ _)
          have hcons : weight (first :: second :: rest) =
              first.length + 1 + weight (second :: rest) := by simp [weight]
          rw [String.intercalate_cons_cons, String.length_append, String.length_append, hcons,
            ← hrest]
          have hslash : "/".length = 1 := rfl
          omega

theorem weight_pathSegments (value : String) :
    weight (pathSegments value) = value.length + 1 := by
  have hne : pathSegments value ≠ [] := by
    rw [pathSegments]
    simp [List.splitOn_ne_nil]
  have hjoin : "/".intercalate (pathSegments value) = value := by
    rw [← String.toList_inj, toList_joined, pathSegments, List.map_map]
    simp [Function.comp_def, List.intercalate_splitOn]
  rw [← length_join hne, hjoin]

/-! ### Classifying a normal form -/

/-- Names whose join reads as it stands: no blank at either end, and no scheme. -/
structure NormalEnds (names : List String) : Prop where
  front : ∀ name ∈ names.head?, ∀ c ∈ name.toList.head?, isTrimmed c = false
  noScheme : ∀ name ∈ names.head?, hasScheme name.toList = false
  back : ∀ name ∈ names.getLast?, ∀ c ∈ name.toList.getLast?, isTrimmed c = false

theorem trim_join_iff {names : List String} (hne : names ≠ [])
    (hnames : ∀ name ∈ names, NormalName name) :
    trim ("/".intercalate names) = "/".intercalate names ↔
      (∀ name ∈ names.head?, ∀ c ∈ name.toList.head?, isTrimmed c = false) ∧
        ∀ name ∈ names.getLast?, ∀ c ∈ name.toList.getLast?, isTrimmed c = false := by
  rw [trim_eq_self_iff]
  apply and_congr
  · obtain ⟨first, rest, rfl⟩ := List.exists_cons_of_ne_nil hne
    obtain ⟨more, hjoin, _⟩ := join_cons first rest
    rw [hjoin, List.head?_append_of_ne_nil _ (hnames first List.mem_cons_self).ne_nil]
    simp
  · obtain ⟨front, last, rfl⟩ := (List.eq_nil_or_concat' names).resolve_left hne
    obtain ⟨more, hjoin⟩ := join_concat front last
    rw [hjoin, List.getLast?_append_of_ne_nil _ (hnames last (by simp)).ne_nil]
    simp

theorem hasScheme_join {names : List String} (hne : names ≠ [])
    (hnames : ∀ name ∈ names, NormalName name) :
    hasScheme ("/".intercalate names).toList = false ↔
      ∀ name ∈ names.head?, hasScheme name.toList = false := by
  obtain ⟨first, rest, rfl⟩ := List.exists_cons_of_ne_nil hne
  obtain ⟨more, hjoin, hmore⟩ := join_cons first rest
  rw [hjoin, hasScheme_append hmore (hnames first List.mem_cons_self).ne_nil]
  simp

theorem foldl_enter_named {names : List String} (hnames : ∀ name ∈ names, isNamed name = true)
    (resolved : List String) : names.foldl enter resolved = resolved ++ names := by
  induction names generalizing resolved with
  | nil => exact (List.append_nil resolved).symm
  | cons first rest ih =>
      obtain ⟨hfirst, hrest⟩ := List.forall_mem_cons.1 hnames
      rw [List.foldl_cons, enter, if_pos hfirst, ih hrest, List.append_assoc]
      rfl

theorem not_escapes_of_named {names : List String}
    (hnames : ∀ name ∈ names, isNamed name = true) : ¬ Escapes names := by
  rintro ⟨front, hfront, hlt⟩
  have hup : ".." ∉ front := fun hmem => Bool.noConfusion (hnames ".." (hfront.subset hmem))
  rw [List.count_eq_zero_of_not_mem hup] at hlt
  exact Nat.not_lt_zero _ hlt

variable {names : List String}

theorem notMem_join {c : Char} (hc : c ≠ '/') (hnames : ∀ name ∈ names, c ∉ name.toList) :
    c ∉ ("/".intercalate names).toList := by
  rw [toList_joined]
  intro hmem
  rcases mem_of_mem_intercalate hmem with heq | ⟨piece, hpiece, hmem⟩
  · exact hc heq
  · obtain ⟨name, hname, rfl⟩ := List.mem_map.1 hpiece
    exact hnames name hname hmem

theorem head?_join_ne_slash (hnames : ∀ name ∈ names, NormalName name) :
    ("/".intercalate names).toList.head? ≠ some '/' := by
  cases names with
  | nil => exact nofun
  | cons first rest =>
      obtain ⟨more, hjoin, _⟩ := join_cons first rest
      obtain ⟨hfirst, _⟩ := List.forall_mem_cons.1 hnames
      rw [hjoin, List.head?_append_of_ne_nil _ hfirst.ne_nil]
      exact fun hhead => hfirst.noSlash (List.mem_of_mem_head? hhead)

theorem isUnusablePath_join (hne : names ≠ []) (hnames : ∀ name ∈ names, NormalName name) :
    isUnusablePath ("/".intercalate names) = hasScheme ("/".intercalate names).toList := by
  have hempty : "/".intercalate names ≠ "" := by
    obtain ⟨first, rest, rfl⟩ := List.exists_cons_of_ne_nil hne
    obtain ⟨more, hjoin, _⟩ := join_cons first rest
    intro hnil
    rw [hnil] at hjoin
    exact (hnames first List.mem_cons_self).ne_nil (List.append_eq_nil_iff.1 hjoin.symm).1
  have hback := notMem_join (by decide) fun name hname => (hnames name hname).noBackslash
  have hnul := notMem_join (by decide) fun name hname => (hnames name hname).noNul
  have hslash := head?_join_ne_slash hnames
  generalize "/".intercalate names = path at hempty hback hnul hslash ⊢
  simp [isUnusablePath, hempty, hback, hnul, hslash]

theorem classify_join_of_ends (hne : names ≠ []) (hnames : ∀ name ∈ names, NormalName name)
    (hends : NormalEnds names) :
    classifyRepositoryPath ("/".intercalate names) = .valid ("/".intercalate names) := by
  have htrim := (trim_join_iff hne hnames).2 ⟨hends.front, hends.back⟩
  have hsegments := pathSegments_join hne fun name hname => (hnames name hname).noSlash
  have hnamed : ∀ name ∈ names, isNamed name = true := fun name hname => (hnames name hname).named
  rw [classify_valid_iff, location, htrim, hsegments, foldl_enter_named hnamed, List.nil_append,
    isUnusablePath_join hne hnames, hasScheme_join hne hnames]
  exact ⟨hends.noScheme, not_escapes_of_named hnamed, hne, rfl⟩

theorem normalEnds_of_classify_join (hne : names ≠ [])
    (hnames : ∀ name ∈ names, NormalName name)
    (hclassify : classifyRepositoryPath ("/".intercalate names) =
      .valid ("/".intercalate names)) : NormalEnds names := by
  obtain ⟨husable, -, hlocation, hpath⟩ := classify_valid_iff.1 hclassify
  have hlength : ("/".intercalate names).length ≤ (trim ("/".intercalate names)).length := by
    have hwalk := weight_foldl_enter_le (pathSegments (trim ("/".intercalate names))) []
    rw [← location, ← length_join hlocation, ← hpath, weight_pathSegments] at hwalk
    simp [weight] at hwalk
    exact hwalk
  have htrim := trim_eq_self_of_length hlength
  obtain ⟨hfront, hback⟩ := (trim_join_iff hne hnames).1 htrim
  rw [htrim] at husable
  simp only [isUnusablePath, Bool.or_eq_false_iff] at husable
  exact ⟨hfront, (hasScheme_join hne hnames).1 husable.1.1.2, hback⟩

/-! ### The normal form -/

/-- A path as the classification promises its normal form to be. -/
structure CleanPath (path : String) : Prop where
  named : ∀ segment ∈ pathSegments path, isNamed segment = true
  noBackslash : '\\' ∉ path.toList
  noNul : '\x00' ∉ path.toList
  relative : path.toList.head? ≠ some '/'
  noScheme : hasScheme path.toList = false
  inside : ¬ Escapes (pathSegments path)

theorem cleanPath_join (hne : names ≠ []) (hnames : ∀ name ∈ names, NormalName name) :
    CleanPath ("/".intercalate names) ↔ ∀ name ∈ names.head?, hasScheme name.toList = false := by
  have hsegments := pathSegments_join hne fun name hname => (hnames name hname).noSlash
  have hnamed : ∀ name ∈ names, isNamed name = true := fun name hname => (hnames name hname).named
  rw [← hasScheme_join hne hnames]
  constructor
  · exact CleanPath.noScheme
  · intro hscheme
    exact
      { named := by rwa [hsegments]
        noBackslash := notMem_join (by decide) fun name hname => (hnames name hname).noBackslash
        noNul := notMem_join (by decide) fun name hname => (hnames name hname).noNul
        relative := head?_join_ne_slash hnames
        noScheme := hscheme
        inside := by
          rw [hsegments]
          exact not_escapes_of_named hnamed }

/-- The normal form of a path is clean, is its own normal form and stands for the place the
path leads to; paths that escape are told apart. -/
structure NormalFormLaws (value : String) : Prop where
  clean : ∀ path, classifyRepositoryPath value = .valid path → CleanPath path
  idempotent : ∀ path, classifyRepositoryPath value = .valid path →
    classifyRepositoryPath path = .valid path
  escapes : classifyRepositoryPath value = .escapesRepository ↔
    isUnusablePath (trim value) = false ∧ Escapes (pathSegments (trim value))
  sameLocation : ∀ other path otherPath, classifyRepositoryPath value = .valid path →
    classifyRepositoryPath other = .valid otherPath →
      (path = otherPath ↔ location value = location other)

theorem join_inj {others : List String} (hne : names ≠ []) (hne' : others ≠ [])
    (hnames : ∀ name ∈ names, NormalName name) (hothers : ∀ name ∈ others, NormalName name) :
    "/".intercalate names = "/".intercalate others ↔ names = others := by
  constructor
  · intro hjoin
    rw [← pathSegments_join hne fun name hname => (hnames name hname).noSlash, hjoin,
      pathSegments_join hne' fun name hname => (hothers name hname).noSlash]
  · exact congrArg _

theorem normalFormLaws_iff (value : String) :
    NormalFormLaws value ↔
      (isUnusablePath (trim value) = false → ¬ Escapes (pathSegments (trim value)) →
        NormalEnds (location value)) := by
  constructor
  · intro hlaws husable hinside
    by_cases hempty : location value = []
    · rw [hempty]
      exact ⟨nofun, nofun, nofun⟩
    · have hnames := normalName_of_location husable
      have hvalid := classify_valid_iff.2 ⟨husable, hinside, hempty, rfl⟩
      exact normalEnds_of_classify_join hempty hnames (hlaws.idempotent _ hvalid)
  · intro hends
    constructor
    · intro path hvalid
      obtain ⟨husable, hinside, hempty, hpath⟩ := classify_valid_iff.1 hvalid
      rw [hpath]
      apply (cleanPath_join hempty (normalName_of_location husable)).2
      exact (hends husable hinside).noScheme
    · intro path hvalid
      obtain ⟨husable, hinside, hempty, hpath⟩ := classify_valid_iff.1 hvalid
      rw [hpath]
      exact classify_join_of_ends hempty (normalName_of_location husable) (hends husable hinside)
    · exact classify_escapes_iff
    · intro other path otherPath hvalid hother
      obtain ⟨husable, -, hempty, hpath⟩ := classify_valid_iff.1 hvalid
      obtain ⟨husable', -, hempty', hpath'⟩ := classify_valid_iff.1 hother
      rw [hpath, hpath']
      exact join_inj hempty hempty' (normalName_of_location husable)
        (normalName_of_location husable')

/-- A drive behind a dot segment, and a blank behind one. -/
theorem not_normalFormLaws : ¬ NormalFormLaws "./C:/x" ∧ ¬ NormalFormLaws "./ a" := by
  have hdrive : classifyRepositoryPath "./C:/x" = .valid "C:/x" ∧
      classifyRepositoryPath "C:/x" = .invalid := by decide +kernel
  have hblank : classifyRepositoryPath "./ a" = .valid " a" ∧
      classifyRepositoryPath " a" = .valid "a" := by decide +kernel
  constructor
  · intro hlaws
    have hagain := hlaws.idempotent "C:/x" hdrive.1
    rw [hdrive.2] at hagain
    cases hagain
  · intro hlaws
    have hagain := hlaws.idempotent " a" hblank.1
    rw [hblank.2] at hagain
    exact absurd hagain (by decide)

end GovernedRuntime.State
