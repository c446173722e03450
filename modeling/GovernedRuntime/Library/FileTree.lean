/-
Trees of files: what lies at a path, a walk over everything that is not a directory,
and writing files one after the other.
-/
import Mathlib.Data.List.Lookmap
import Mathlib.Data.List.Infix
import Mathlib.Data.List.Nodup

namespace GovernedRuntime.Library

/-- A file, a directory, or an entry of another kind. -/
inductive Entry (Content : Type) where
  | file (content : Content)
  | directory (entries : List (String × Entry Content))
  | special

abbrev Directory (Content : Type) := List (String × Entry Content)

namespace Entry

variable {Content α : Type}

/-- Induction with the entries of a directory as they stand in it. -/
@[elab_as_elim]
theorem inductionOn {P : Entry Content → Prop} (file : ∀ content, P (.file content))
    (directory : ∀ entries, (∀ child ∈ entries, P child.2) → P (.directory entries))
    (special : P .special) (entry : Entry Content) : P entry :=
  @Entry.rec Content P (fun entries => ∀ child ∈ entries, P child.2) (fun child => P child.2)
    file directory special
    (fun _ hmem => absurd hmem List.not_mem_nil)
    (fun _ _ hfirst hrest => List.forall_mem_cons.2 ⟨hfirst, hrest⟩)
    (fun _ _ hentry => hentry) entry

def isDirectory : Entry Content → Bool
  | .directory _ => true
  | _ => false

def isFile : Entry Content → Bool
  | .file _ => true
  | _ => false

/-- The entry at a path of names. -/
def find? : Entry Content → List String → Option (Entry Content)
  | entry, [] => some entry
  | .directory entries, name :: rest =>
      match entries.lookup name with
      | none => none
      | some entry => entry.find? rest
  | _, _ :: _ => none

/-- Whether a path leads to, or through, an entry of another kind. -/
def meetsSpecial : Entry Content → List String → Bool
  | .special, _ => true
  | .directory entries, name :: rest =>
      match entries.lookup name with
      | none => false
      | some entry => entry.meetsSpecial rest
  | _, _ => false

@[simp] theorem find?_nil (entry : Entry Content) : entry.find? [] = some entry := by
  cases entry <;> rfl

theorem find?_cons {entries : Directory Content} {name : String} {rest : List String} :
    (directory entries).find? (name :: rest) = (entries.lookup name).bind (·.find? rest) := by
  rw [find?]
  cases entries.lookup name <;> rfl

theorem exists_special {entry : Entry Content} {path : List String}
    (hmeets : entry.meetsSpecial path = true) :
    ∃ before, before <+: path ∧ entry.find? before = some .special := by
  induction path generalizing entry with
  | nil =>
      cases entry with
      | special => exact ⟨[], List.nil_prefix, rfl⟩
      | _ => cases hmeets
  | cons name rest ih =>
      cases entry with
      | special => exact ⟨[], List.nil_prefix, rfl⟩
      | file content => cases hmeets
      | directory entries =>
          rw [meetsSpecial] at hmeets
          cases hlookup : entries.lookup name with
          | none => simp [hlookup] at hmeets
          | some child =>
              rw [hlookup] at hmeets
              obtain ⟨before, hbefore, hfound⟩ := ih hmeets
              refine ⟨name :: before, (List.cons_prefix_cons).2 ⟨rfl, hbefore⟩, ?_⟩
              rw [find?_cons, hlookup]
              exact hfound

/-! ### Well-named trees -/

/-- In every directory each name is a proper one and stands once. -/
def WellNamed (proper : String → Prop) (entry : Entry Content) : Prop :=
  ∀ path entries, entry.find? path = some (.directory entries) →
    (entries.map Prod.fst).Nodup ∧ ∀ child ∈ entries, proper child.1

theorem lookup_of_mem {entries : Directory Content} (hnodup : (entries.map Prod.fst).Nodup)
    {name : String} {entry : Entry Content} (hmem : (name, entry) ∈ entries) :
    entries.lookup name = some entry := by
  induction entries with
  | nil => cases hmem
  | cons child rest ih =>
      obtain ⟨hfirst, hrest⟩ := List.nodup_cons.1 hnodup
      rcases List.mem_cons.1 hmem with rfl | hmem
      · exact List.lookup_cons_self
      · have hother : (name == child.1) = false := by
          rw [beq_eq_false_iff_ne]
          rintro rfl
          exact hfirst (List.mem_map.2 ⟨_, hmem, rfl⟩)
        rw [List.lookup_cons, hother]
        exact ih hrest hmem

theorem mem_of_lookup {entries : Directory Content} {name : String} {entry : Entry Content}
    (hlookup : entries.lookup name = some entry) : (name, entry) ∈ entries := by
  induction entries with
  | nil => cases hlookup
  | cons child rest ih =>
      rw [List.lookup_cons] at hlookup
      split at hlookup
      case h_1 hsame =>
        cases hlookup
        rw [beq_iff_eq.1 hsame]
        exact List.mem_cons_self
      case h_2 => exact List.mem_cons_of_mem _ (ih hlookup)

variable {proper : String → Prop}

theorem WellNamed.child {entries : Directory Content}
    (hnamed : (directory entries).WellNamed proper) {name : String} {entry : Entry Content}
    (hlookup : entries.lookup name = some entry) : entry.WellNamed proper := by
  intro path found hfound
  refine hnamed (name :: path) found ?_
  rw [find?_cons, hlookup]
  exact hfound

theorem WellNamed.of_leaf {entry : Entry Content} (hleaf : entry.isDirectory = false) :
    entry.WellNamed proper := by
  intro path entries hfound
  cases path with
  | nil =>
      rw [find?_nil] at hfound
      cases hfound
      cases hleaf
  | cons name rest =>
      cases entry with
      | directory entries => cases hleaf
      | file content => cases hfound
      | special => cases hfound

theorem WellNamed.of_children {entries : Directory Content}
    (hnodup : (entries.map Prod.fst).Nodup)
    (hchildren : ∀ child ∈ entries, proper child.1 ∧ child.2.WellNamed proper) :
    (directory entries).WellNamed proper := by
  intro path found hfound
  cases path with
  | nil =>
      rw [find?_nil] at hfound
      cases hfound
      exact ⟨hnodup, fun child hmem => (hchildren child hmem).1⟩
  | cons name rest =>
      rw [find?_cons, Option.bind_eq_some_iff] at hfound
      obtain ⟨child, hchild, hfound⟩ := hfound
      exact (hchildren (name, child) (mem_of_lookup hchild)).2 rest found hfound

theorem WellNamed.lookup {entries : Directory Content}
    (hnamed : (directory entries).WellNamed proper) {name : String} {entry : Entry Content} :
    entries.lookup name = some entry ↔ (name, entry) ∈ entries :=
  ⟨mem_of_lookup, lookup_of_mem (hnamed [] entries (find?_nil _)).1⟩

/-- The names on the way to an entry are proper. -/
theorem WellNamed.proper_of_find? {entry found : Entry Content} {path : List String}
    (hnamed : entry.WellNamed proper) (hfound : entry.find? path = some found) :
    ∀ name ∈ path, proper name := by
  induction path generalizing entry with
  | nil => nofun
  | cons name rest ih =>
      cases entry with
      | file content => cases hfound
      | special => cases hfound
      | directory entries =>
          rw [find?_cons, Option.bind_eq_some_iff] at hfound
          obtain ⟨child, hchild, hfound⟩ := hfound
          have hname := (hnamed [] entries (find?_nil _)).2 (name, child)
            (mem_of_lookup hchild)
          exact List.forall_mem_cons.2 ⟨hname, ih (hnamed.child hchild) hfound⟩

/-! ### Walks -/

/-- The text of a path that goes on with a name. -/
def childPath (parent name : String) : String :=
  if parent = "" then name else parent ++ "/" ++ name

def joinFrom (parent : String) (path : List String) : String := path.foldl childPath parent

mutual

/-- What a visitor makes of an entry of a name, or of everything below it that is not
a directory. -/
def walkEntry (visit : String → String → Entry Content → Option α) (relPath name : String) :
    Entry Content → List α
  | .file content => (visit relPath name (.file content)).toList
  | .directory entries => walkEntries visit relPath entries
  | .special => (visit relPath name .special).toList
termination_by structural entry => entry

def walkEntries (visit : String → String → Entry Content → Option α) (parent : String) :
    List (String × Entry Content) → List α
  | [] => []
  | (name, entry) :: rest =>
      walkEntry visit (childPath parent name) name entry ++ walkEntries visit parent rest
termination_by structural entries => entries

end

variable {visit : String → String → Entry Content → Option α}

theorem walkEntries_eq_flatMap (parent : String) (entries : Directory Content) :
    walkEntries visit parent entries =
      entries.flatMap fun child => walkEntry visit (childPath parent child.1) child.1 child.2 := by
  induction entries with
  | nil => rfl
  | cons child rest ih => rw [walkEntries, ih, List.flatMap_cons]

theorem walkEntry_of_not_directory {entry : Entry Content} (hleaf : entry.isDirectory = false)
    (relPath name : String) :
    walkEntry visit relPath name entry = (visit relPath name entry).toList := by
  cases entry with
  | file content => rfl
  | special => rfl
  | directory entries => cases hleaf

/-- A walk visits every path to something that is not a directory, under the joined
names of the path. -/
theorem mem_walkEntry {entry : Entry Content} (hnamed : entry.WellNamed proper)
    {relPath name : String} {item : α} :
    item ∈ walkEntry visit relPath name entry ↔
      ∃ path leaf, entry.find? path = some leaf ∧ leaf.isDirectory = false ∧
        visit (joinFrom relPath path) (path.getLastD name) leaf = some item := by
  induction entry using Entry.inductionOn generalizing relPath name with
  | file content =>
      rw [walkEntry_of_not_directory rfl, Option.mem_toList]
      constructor
      · intro hvisit
        exact ⟨[], _, find?_nil _, rfl, hvisit⟩
      · rintro ⟨path, leaf, hfound, -, hvisit⟩
        cases path with
        | nil =>
            cases hfound
            exact hvisit
        | cons first rest => cases hfound
  | special =>
      rw [walkEntry_of_not_directory rfl, Option.mem_toList]
      constructor
      · intro hvisit
        exact ⟨[], _, find?_nil _, rfl, hvisit⟩
      · rintro ⟨path, leaf, hfound, -, hvisit⟩
        cases path with
        | nil =>
            cases hfound
            exact hvisit
        | cons first rest => cases hfound
  | directory entries ih =>
      rw [walkEntry, walkEntries_eq_flatMap, List.mem_flatMap]
      constructor
      · rintro ⟨⟨first, child⟩, hmem, hitem⟩
        have hchild := hnamed.lookup.2 hmem
        obtain ⟨rest, leaf, hfound, hleaf, hvisit⟩ :=
          (ih _ hmem (hnamed.child hchild)).1 hitem
        refine ⟨first :: rest, leaf, ?_, hleaf, ?_⟩
        · rw [find?_cons, hchild]
          exact hfound
        · rw [joinFrom, List.foldl_cons, List.getLastD_cons]
          exact hvisit
      · rintro ⟨path, leaf, hfound, hleaf, hvisit⟩
        cases path with
        | nil =>
            cases hfound
            cases hleaf
        | cons first rest =>
            rw [find?_cons, Option.bind_eq_some_iff] at hfound
            obtain ⟨child, hchild, hfound⟩ := hfound
            have hmem := mem_of_lookup hchild
            rw [joinFrom, List.foldl_cons, List.getLastD_cons] at hvisit
            exact ⟨(first, child), hmem,
              (ih _ hmem (hnamed.child hchild)).2 ⟨rest, leaf, hfound, hleaf, hvisit⟩⟩

/-! ### Writing files -/

/-- A directory with an entry of a name in it, in the place of one that it had. -/
def setEntry (name : String) (entry : Entry Content) : Directory Content → Directory Content
  | [] => [(name, entry)]
  | child :: rest =>
      if child.1 = name then (name, entry) :: rest else child :: setEntry name entry rest

theorem lookup_setEntry (name : String) (entry : Entry Content) (entries : Directory Content)
    (other : String) :
    (setEntry name entry entries).lookup other =
      if other = name then some entry else entries.lookup other := by
  induction entries with
  | nil =>
      rw [setEntry, List.lookup_cons]
      by_cases hsame : other = name
      · simp [hsame]
      · simp [hsame, beq_eq_false_iff_ne.2 hsame]
  | cons child rest ih =>
      rw [setEntry]
      split_ifs with hchild hsame hsame
      · simp [hsame]
      · have hother : (other == child.1) = false := by
          rw [beq_eq_false_iff_ne, hchild]
          exact hsame
        rw [List.lookup_cons, List.lookup_cons, hother, beq_eq_false_iff_ne.2 hsame]
      · rw [List.lookup_cons, ih, if_pos hsame, hsame,
          beq_eq_false_iff_ne.2 (Ne.symm hchild)]
      · rw [List.lookup_cons, List.lookup_cons, ih, if_neg hsame]

theorem names_setEntry (name : String) (entry : Entry Content) (entries : Directory Content) :
    (setEntry name entry entries).map Prod.fst =
      if name ∈ entries.map Prod.fst then entries.map Prod.fst
      else entries.map Prod.fst ++ [name] := by
  induction entries with
  | nil => rfl
  | cons child rest ih =>
      rw [setEntry]
      by_cases hchild : child.1 = name
      · simp [hchild]
      · rw [if_neg hchild, List.map_cons, ih]
        by_cases hin : name ∈ rest.map Prod.fst
        · have hold : name ∈ (child :: rest).map Prod.fst := List.mem_cons_of_mem _ hin
          rw [if_pos hin, if_pos hold, List.map_cons]
        · have hnew : name ∉ (child :: rest).map Prod.fst := by
            rw [List.map_cons, List.mem_cons, not_or]
            exact ⟨Ne.symm hchild, hin⟩
          rw [if_neg hin, if_neg hnew, List.map_cons, List.cons_append]

theorem mem_setEntry {name : String} {entry : Entry Content} {entries : Directory Content}
    {child : String × Entry Content} (hmem : child ∈ setEntry name entry entries) :
    child = (name, entry) ∨ child ∈ entries := by
  induction entries with
  | nil => exact .inl (List.mem_singleton.1 hmem)
  | cons first rest ih =>
      rw [setEntry] at hmem
      split_ifs at hmem
      · exact (List.mem_cons.1 hmem).imp id (List.mem_cons_of_mem _)
      · rcases List.mem_cons.1 hmem with rfl | hmem
        · exact .inr List.mem_cons_self
        · exact (ih hmem).imp id (List.mem_cons_of_mem _)

theorem WellNamed.setEntry {name : String} {entry : Entry Content} {entries : Directory Content}
    (hnamed : (directory entries).WellNamed proper) (hname : proper name)
    (hentry : entry.WellNamed proper) :
    (directory (Entry.setEntry name entry entries)).WellNamed proper := by
  obtain ⟨hnodup, hproper⟩ := hnamed [] entries (find?_nil _)
  refine .of_children ?_ fun child hmem => ?_
  · rw [names_setEntry]
    split_ifs with hin
    · exact hnodup
    · exact List.nodup_append_comm.1 (List.nodup_cons.2 ⟨hin, hnodup⟩)
  · rcases mem_setEntry hmem with rfl | hmem
    · exact ⟨hname, hentry⟩
    · exact ⟨hproper child hmem, hnamed.child (hnamed.lookup.2 hmem)⟩

/-- The entries of a directory of a name, one that is yet to be made included. -/
def openDirectory : Option (Entry Content) → Option (Directory Content)
  | none => some []
  | some (.directory entries) => some entries
  | some _ => none

/-- Writes a file, with the directories on the way to it; not over a directory, nor
below a file. -/
def writeFile (content : Content) : List String → Directory Content → Option (Directory Content)
  | [], _ => none
  | [name], entries =>
      match entries.lookup name with
      | none | some (.file _) => some (setEntry name (.file content) entries)
      | some _ => none
  | name :: next :: rest, entries =>
      (openDirectory (entries.lookup name)).bind fun below =>
        (writeFile content (next :: rest) below).map fun written =>
          setEntry name (.directory written) entries

theorem writeFile_single {content : Content} {name : String} {entries written : Directory Content}
    (hwrite : writeFile content [name] entries = some written) :
    written = setEntry name (.file content) entries ∧
      ∀ entry, entries.lookup name = some entry → entry.isFile = true := by
  rw [writeFile] at hwrite
  cases hlookup : entries.lookup name with
  | none =>
      rw [hlookup] at hwrite
      exact ⟨(Option.some_inj.1 hwrite).symm, nofun⟩
  | some found =>
      rw [hlookup] at hwrite
      cases found with
      | file old =>
          refine ⟨(Option.some_inj.1 hwrite).symm, fun entry hentry => ?_⟩
          rw [← Option.some_inj.1 hentry]
          rfl
      | directory entries => cases hwrite
      | special => cases hwrite

theorem writeFile_below {content : Content} {name next : String} {rest : List String}
    {entries written : Directory Content}
    (hwrite : writeFile content (name :: next :: rest) entries = some written) :
    ∃ below written', openDirectory (entries.lookup name) = some below ∧
      writeFile content (next :: rest) below = some written' ∧
      written = setEntry name (.directory written') entries := by
  rw [writeFile, Option.bind_eq_some_iff] at hwrite
  obtain ⟨below, hopen, hwrite⟩ := hwrite
  obtain ⟨written', hwrite, hset⟩ := Option.map_eq_some_iff.1 hwrite
  exact ⟨below, written', hopen, hwrite, hset.symm⟩

theorem find?_of_openDirectory {entries below : Directory Content} {name : String}
    (hopen : openDirectory (entries.lookup name) = some below) (next : String)
    (rest : List String) :
    (directory entries).find? (name :: next :: rest) = (directory below).find? (next :: rest) := by
  rw [find?_cons]
  cases hlookup : entries.lookup name with
  | none =>
      rw [hlookup] at hopen
      rw [← Option.some_inj.1 hopen]
      rfl
  | some child =>
      rw [hlookup] at hopen
      cases child with
      | file content => cases hopen
      | special => cases hopen
      | directory entries' => rw [← Option.some_inj.1 hopen, Option.bind_some]

theorem isDirectory_of_openDirectory {entries below : Directory Content} {name : String}
    {entry : Entry Content} (hopen : openDirectory (entries.lookup name) = some below)
    (hlookup : entries.lookup name = some entry) : entry.isDirectory = true := by
  rw [hlookup] at hopen
  cases entry with
  | directory entries' => rfl
  | file content => cases hopen
  | special => cases hopen

/-- What lies at a path of a directory of which one entry is set. -/
theorem find?_setEntry (name : String) (entry : Entry Content) (entries : Directory Content)
    (first : String) (rest : List String) :
    (directory (setEntry name entry entries)).find? (first :: rest) =
      if first = name then entry.find? rest else (directory entries).find? (first :: rest) := by
  rw [find?_cons, lookup_setEntry]
  split_ifs
  · rfl
  · rw [find?_cons]

/-- A write puts its file at its path, and leaves what else is not a directory. -/
theorem leaf_writeFile {content : Content} {path : List String}
    {entries written : Directory Content} (hwrite : writeFile content path entries = some written)
    {leaf : Entry Content} (hleaf : leaf.isDirectory = false) (other : List String) :
    (directory written).find? other = some leaf ↔
      if other = path then leaf = .file content
      else (directory entries).find? other = some leaf := by
  induction path generalizing entries written other with
  | nil => cases hwrite
  | cons name rest ih =>
      have hroot : ∀ entries' : Directory Content, directory entries' ≠ leaf := by
        rintro entries' rfl
        cases hleaf
      cases other with
      | nil => simp [hroot]
      | cons first more =>
          cases rest with
          | nil =>
              obtain ⟨rfl, hfile⟩ := writeFile_single hwrite
              rw [find?_setEntry]
              by_cases hname : first = name
              · subst hname
                cases more with
                | nil => simp [eq_comm]
                | cons second more =>
                    have habsent : (directory entries).find? (first :: second :: more) = none := by
                      rw [find?_cons]
                      cases hlookup : entries.lookup first with
                      | none => rfl
                      | some entry =>
                          cases entry with
                          | file content => rfl
                          | directory entries' => cases hfile _ hlookup
                          | special => cases hfile _ hlookup
                    rw [if_pos rfl, habsent, if_neg (by simp), find?]
                    simp
              · simp [hname]
          | cons next rest =>
              obtain ⟨below, written', hopen, hbelow, rfl⟩ := writeFile_below hwrite
              rw [find?_setEntry]
              by_cases hname : first = name
              · subst hname
                rw [if_pos rfl]
                cases more with
                | nil =>
                    have hnot : ∀ entry, entries.lookup first = some entry → entry ≠ leaf := by
                      rintro entry hlookup rfl
                      rw [isDirectory_of_openDirectory hopen hlookup] at hleaf
                      cases hleaf
                    have habsent : (directory entries).find? [first] ≠ some leaf := by
                      rw [find?_cons]
                      cases hlookup : entries.lookup first with
                      | none => nofun
                      | some entry => simpa using hnot entry hlookup
                    rw [if_neg (by simp), find?_nil, Option.some_inj]
                    exact iff_of_false (hroot written') habsent
                | cons second more =>
                    rw [ih hbelow, find?_of_openDirectory hopen]
                    simp
              · simp [hname]

/-- A write makes only the directories on the way to its file. -/
theorem directory_writeFile {content : Content} {path : List String}
    {entries written : Directory Content} (hwrite : writeFile content path entries = some written)
    {other : List String} {found : Directory Content}
    (hfound : (directory written).find? other = some (directory found)) :
    (other <+: path ∧ other ≠ path) ∨
      ∃ found', (directory entries).find? other = some (directory found') := by
  induction path generalizing entries written other found with
  | nil => cases hwrite
  | cons name rest ih =>
      cases other with
      | nil => exact .inl ⟨List.nil_prefix, nofun⟩
      | cons first more =>
          cases rest with
          | nil =>
              obtain ⟨rfl, -⟩ := writeFile_single hwrite
              rw [find?_setEntry] at hfound
              split_ifs at hfound with hname
              · cases more with
                | nil => cases hfound
                | cons second more => cases hfound
              · exact .inr ⟨found, hfound⟩
          | cons next rest =>
              obtain ⟨below, written', hopen, hbelow, rfl⟩ := writeFile_below hwrite
              rw [find?_setEntry] at hfound
              split_ifs at hfound with hname
              · subst hname
                rcases ih hbelow hfound with ⟨hbefore, hne⟩ | ⟨found', hfound'⟩
                · refine .inl ⟨List.cons_prefix_cons.2 ⟨rfl, hbefore⟩, fun hsame => hne ?_⟩
                  exact (List.cons.inj hsame).2
                · cases more with
                  | nil =>
                      refine .inl ⟨List.cons_prefix_cons.2 ⟨rfl, List.nil_prefix⟩, nofun⟩
                  | cons second more =>
                      rw [← find?_of_openDirectory hopen] at hfound'
                      exact .inr ⟨found', hfound'⟩
              · exact .inr ⟨found, hfound⟩

/-- A write succeeds below directories only, and over nothing but a file. -/
theorem exists_writeFile (content : Content) {path : List String} {entries : Directory Content}
    (hne : path ≠ [])
    (habove : ∀ before entry, before <+: path → before ≠ path →
      (directory entries).find? before = some entry → entry.isDirectory = true)
    (hover : ∀ entry, (directory entries).find? path = some entry → entry.isFile = true) :
    ∃ written, writeFile content path entries = some written := by
  induction path generalizing entries with
  | nil => exact absurd rfl hne
  | cons name rest ih =>
      cases rest with
      | nil =>
          rw [writeFile]
          cases hlookup : entries.lookup name with
          | none => exact ⟨_, rfl⟩
          | some entry =>
              have hfile := hover entry (by rw [find?_cons, hlookup, Option.bind_some, find?_nil])
              cases entry with
              | file old => exact ⟨_, rfl⟩
              | directory entries' => cases hfile
              | special => cases hfile
      | cons next rest =>
          have hopen : ∃ below, openDirectory (entries.lookup name) = some below := by
            cases hlookup : entries.lookup name with
            | none => exact ⟨[], rfl⟩
            | some entry =>
                have hentry := habove [name] entry
                  (List.cons_prefix_cons.2 ⟨rfl, List.nil_prefix⟩) (by simp)
                  (by rw [find?_cons, hlookup, Option.bind_some, find?_nil])
                cases entry with
                | directory entries' => exact ⟨entries', rfl⟩
                | file old => cases hentry
                | special => cases hentry
          obtain ⟨below, hopen⟩ := hopen
          obtain ⟨written, hwritten⟩ := @ih below (List.cons_ne_nil _ _)
            (fun before entry hbefore hother hfound => by
              cases before with
              | nil =>
                  rw [find?_nil] at hfound
                  rw [← Option.some_inj.1 hfound]
                  rfl
              | cons first more =>
                  refine habove (name :: first :: more) entry
                    (List.cons_prefix_cons.2 ⟨rfl, hbefore⟩) (fun hsame => hother ?_) ?_
                  · exact (List.cons.inj hsame).2
                  · rw [find?_of_openDirectory hopen]
                    exact hfound)
            (fun entry hfound => hover entry (by rw [find?_of_openDirectory hopen]; exact hfound))
          rw [writeFile, hopen, Option.bind_some, hwritten]
          exact ⟨_, rfl⟩

theorem WellNamed.writeFile {content : Content} {path : List String}
    {entries written : Directory Content} (hnamed : (directory entries).WellNamed proper)
    (hpath : ∀ name ∈ path, proper name)
    (hwrite : Entry.writeFile content path entries = some written) :
    (directory written).WellNamed proper := by
  induction path generalizing entries written with
  | nil => cases hwrite
  | cons name rest ih =>
      obtain ⟨hname, hrest⟩ := List.forall_mem_cons.1 hpath
      cases rest with
      | nil =>
          obtain ⟨rfl, -⟩ := writeFile_single hwrite
          exact hnamed.setEntry hname (.of_leaf rfl)
      | cons next rest =>
          obtain ⟨below, written', hopen, hbelow, rfl⟩ := writeFile_below hwrite
          refine hnamed.setEntry hname (ih ?_ hrest hbelow)
          cases hlookup : entries.lookup name with
          | none =>
              rw [hlookup] at hopen
              rw [← Option.some_inj.1 hopen]
              exact .of_children List.nodup_nil nofun
          | some entry =>
              rw [hlookup] at hopen
              cases entry with
              | directory entries' =>
                  rw [← Option.some_inj.1 hopen]
                  exact hnamed.child hlookup
              | file content => cases hopen
              | special => cases hopen

/-! ### Writing several files -/

def writeFiles (writes : List (List String × Content)) (entries : Directory Content) :
    Option (Directory Content) :=
  writes.foldlM (fun written write => writeFile write.2 write.1 written) entries

/-- Paths of which none goes on from another. -/
structure PrefixFree (targets : List String → Prop) : Prop where
  nonempty : ¬ targets []
  apart : ∀ path other, targets path → targets other → path <+: other → path = other

/-- A tree of files at the paths of a family, with the directories on the way to them. -/
structure BuiltOn (targets : List String → Prop) (entries : Directory Content) : Prop where
  leaves : ∀ path leaf, (directory entries).find? path = some leaf → leaf.isDirectory = false →
    leaf.isFile = true ∧ targets path
  directories : ∀ path found, (directory entries).find? path = some (directory found) →
    path ≠ [] → ∃ target, targets target ∧ path <+: target ∧ path ≠ target

variable {targets : List String → Prop}

theorem find?_nil_directory (path : List String) :
    (directory ([] : Directory Content)).find? path =
      if path = [] then some (directory []) else none := by
  cases path with
  | nil => rfl
  | cons name rest => rfl

theorem BuiltOn.nil : BuiltOn targets ([] : Directory Content) := by
  refine ⟨fun path leaf hfound hleaf => ?_, fun path found hfound hne => ?_⟩
  · rw [find?_nil_directory] at hfound
    split_ifs at hfound
    cases hfound
    cases hleaf
  · rw [find?_nil_directory, if_neg hne] at hfound
    cases hfound

/-- A write to a path of the family goes through, and keeps the tree on the family. -/
theorem BuiltOn.write (hfree : PrefixFree targets) {entries : Directory Content}
    (hbuilt : BuiltOn targets entries) (content : Content) {path : List String}
    (htarget : targets path) :
    ∃ written, writeFile content path entries = some written ∧ BuiltOn targets written := by
  have hne : path ≠ [] := by
    rintro rfl
    exact hfree.nonempty htarget
  have habove : ∀ before entry, before <+: path → before ≠ path →
      (directory entries).find? before = some entry → entry.isDirectory = true := by
    intro before entry hbefore hother hfound
    by_contra hleaf
    rw [Bool.not_eq_true] at hleaf
    have hbeforeTarget := (hbuilt.leaves before entry hfound hleaf).2
    exact hother (hfree.apart before path hbeforeTarget htarget hbefore)
  have hover : ∀ entry, (directory entries).find? path = some entry → entry.isFile = true := by
    intro entry hfound
    cases entry with
    | file old => rfl
    | special => exact (hbuilt.leaves path _ hfound rfl).1
    | directory found =>
        obtain ⟨target, hother, hbefore, hapart⟩ := hbuilt.directories path found hfound hne
        exact absurd (hfree.apart path target htarget hother hbefore) hapart
  obtain ⟨written, hwrite⟩ := exists_writeFile content hne habove hover
  refine ⟨written, hwrite, fun other leaf hfound hleaf => ?_, fun other found hfound hroot => ?_⟩
  · rw [leaf_writeFile hwrite hleaf] at hfound
    split_ifs at hfound with hsame
    · rw [hsame, hfound]
      exact ⟨rfl, htarget⟩
    · exact hbuilt.leaves other leaf hfound hleaf
  · rcases directory_writeFile hwrite hfound with ⟨hbefore, hapart⟩ | ⟨found', hfound'⟩
    · exact ⟨path, htarget, hbefore, hapart⟩
    · exact hbuilt.directories other found' hfound' hroot

/-- What files lie in a tree after several writes, none of which changes another. -/
structure Wrote (writes : List (List String × Content)) (entries written : Directory Content) :
    Prop where
  file : ∀ path content, (directory written).find? path = some (.file content) ↔
    (path, content) ∈ writes ∨
      path ∉ writes.map Prod.fst ∧ (directory entries).find? path = some (.file content)

theorem BuiltOn.writeFiles (hfree : PrefixFree targets)
    {writes : List (List String × Content)} (htargets : ∀ write ∈ writes, targets write.1)
    (hsame : ∀ write ∈ writes, ∀ other ∈ writes, write.1 = other.1 → write = other)
    (hproper : ∀ write ∈ writes, ∀ name ∈ write.1, proper name)
    {entries : Directory Content} (hbuilt : BuiltOn targets entries)
    (hnamed : (directory entries).WellNamed proper) :
    ∃ written, Entry.writeFiles writes entries = some written ∧ BuiltOn targets written ∧
      (directory written).WellNamed proper ∧ Wrote writes entries written := by
  induction writes generalizing entries with
  | nil =>
      refine ⟨entries, rfl, hbuilt, hnamed, ⟨fun path content => ?_⟩⟩
      simp
  | cons write rest ih =>
      obtain ⟨htarget, hothers⟩ := List.forall_mem_cons.1 htargets
      obtain ⟨hpath, hpaths⟩ := List.forall_mem_cons.1 hproper
      have hrest : ∀ other ∈ rest, ∀ another ∈ rest, other.1 = another.1 → other = another :=
        fun other hother another hanother =>
          hsame other (List.mem_cons_of_mem _ hother) another (List.mem_cons_of_mem _ hanother)
      obtain ⟨first, hfirst, hbuilt'⟩ := hbuilt.write hfree write.2 htarget
      obtain ⟨written, hwritten, hbuilt'', hnamed', hfile⟩ :=
        ih hothers hrest hpaths hbuilt' (hnamed.writeFile hpath hfirst)
      refine ⟨written, ?_, hbuilt'', hnamed', ⟨fun path content => ?_⟩⟩
      · rw [Entry.writeFiles, List.foldlM_cons, hfirst]
        exact hwritten
      · rw [hfile.file, leaf_writeFile hfirst rfl, List.mem_cons, List.map_cons, List.mem_cons,
          not_or]
        by_cases hpathEq : path = write.1
        · rw [if_pos hpathEq, hpathEq]
          by_cases hagain : write.1 ∈ rest.map Prod.fst
          · obtain ⟨other, hother, hkey⟩ := List.mem_map.1 hagain
            obtain rfl : other = write :=
              hsame other (List.mem_cons_of_mem _ hother) write List.mem_cons_self hkey
            simp only [hagain, not_true_eq_false, false_and, or_false, and_false]
            refine ⟨.inr, fun hmem => hmem.elim (fun hwrite => ?_) id⟩
            rw [hwrite]
            exact hother
          · simp [hagain, Prod.ext_iff, or_comm]
        · rw [if_neg hpathEq]
          simp [hpathEq, Prod.ext_iff]

end Entry

end GovernedRuntime.Library
