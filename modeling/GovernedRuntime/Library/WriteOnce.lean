/-
Files that are written once, by a process that may be struck by one fault: a write
fails without effect, or the process stops right before or right after it.
-/
import Mathlib.Data.List.Basic

namespace GovernedRuntime.Library

universe u v w

inductive FaultKind where
  | failed
  | stoppedBefore
  | stoppedAfter
deriving DecidableEq, Repr

/-- A fault strikes after it has let a number of writes pass. -/
structure Fault where
  passes : Nat
  kind : FaultKind
deriving DecidableEq, Repr

/-- How many writes take effect before the fault ends the process. -/
def Fault.effective (fault : Fault) : Nat :=
  match fault.kind with
  | .stoppedAfter => fault.passes + 1
  | .failed => fault.passes
  | .stoppedBefore => fault.passes

/-- A process that ends early: with an error its owner sees, or without a trace. -/
inductive Interrupt (Error : Type w) where
  | failed (error : Error)
  | stopped
deriving DecidableEq, Repr

def FaultKind.interrupt {Error : Type w} (kind : FaultKind) (error : Error) :
    Interrupt Error :=
  match kind with
  | .failed => .failed error
  | .stoppedBefore => .stopped
  | .stoppedAfter => .stopped

/-! ### Files -/

/-- The files of a directory, in the order of their creation. -/
abbrev Files (Path : Type u) (Content : Type v) := List (Path × Content)

variable {Path : Type u} {Content : Type v} {Error : Type w}

section Files

variable [DecidableEq Path]

def Files.read (files : Files Path Content) (path : Path) : Option Content :=
  files.lookup path

def Files.unlink (files : Files Path Content) (path : Path) : Files Path Content :=
  files.filter (·.1 != path)

/-- Remove files, the last one first. -/
def Files.unlinkAll (files : Files Path Content) (paths : List Path) :
    Files Path Content :=
  paths.reverse.foldl Files.unlink files

theorem Files.read_eq_none_iff {files : Files Path Content} {path : Path} :
    files.read path = none ↔ path ∉ files.map (·.1) := by
  rw [Files.read, List.lookup_eq_none_iff]
  constructor
  · rintro habsent hmem
    obtain ⟨file, hfile, rfl⟩ := List.mem_map.1 hmem
    simpa using habsent file hfile
  · intro habsent file hfile
    simp only [bne_iff_ne, ne_eq]
    rintro rfl
    exact habsent (List.mem_map_of_mem hfile)

/-- What is already there is read as before, whatever is added. -/
theorem Files.read_append {files : Files Path Content} {path : Path}
    {content : Content} (added : Files Path Content)
    (hread : files.read path = some content) :
    Files.read (files ++ added) path = some content := by
  rw [Files.read] at hread ⊢
  rw [List.lookup_append, hread]
  rfl

theorem Files.unlink_foldl (files : Files Path Content) (paths : List Path) :
    paths.foldl Files.unlink files = files.filter (fun file => !paths.contains file.1) := by
  induction paths generalizing files with
  | nil => simp
  | cons path rest ih =>
      rw [List.foldl_cons, ih, Files.unlink, List.filter_filter]
      congr 1
      funext file
      by_cases hpath : file.1 = path <;> simp [hpath]

/-- Removing exactly the added files restores the directory. -/
theorem Files.unlinkAll_append {files added : Files Path Content}
    (habsent : ∀ path ∈ added.map (·.1), files.read path = none) :
    Files.unlinkAll (files ++ added) (added.map (·.1)) = files := by
  rw [Files.unlinkAll, Files.unlink_foldl, List.filter_append]
  have hkept : files.filter
      (fun file => !(added.map (·.1)).reverse.contains file.1) = files := by
    rw [List.filter_eq_self]
    intro file hfile
    simp only [Bool.not_eq_true', List.contains_eq_mem, List.mem_reverse,
      decide_eq_false_iff_not]
    intro hmem
    exact Files.read_eq_none_iff.1 (habsent _ hmem) (List.mem_map_of_mem hfile)
  have hgone : added.filter
      (fun file => !(added.map (·.1)).reverse.contains file.1) = [] := by
    rw [List.filter_eq_nil_iff]
    intro file hfile
    simp only [List.contains_eq_mem, List.mem_reverse, Bool.not_eq_true',
      decide_eq_false_iff_not, not_not]
    exact List.mem_map_of_mem hfile
  rw [hkept, hgone, List.append_nil]

end Files

/-! ### Writers -/

/-- A process that creates files, with the paths it created and the fault it is
going to meet. -/
structure FileWriter (Path : Type u) (Content : Type v) where
  files : Files Path Content
  created : List Path
  fault : Option Fault
deriving DecidableEq, Repr

/-- A run that ends early leaves the writer it ended with. -/
abbrev WriteResult (Path : Type u) (Content : Type v) (Error : Type w) :=
  Except (Interrupt Error × FileWriter Path Content) (FileWriter Path Content)

def FileWriter.add (writer : FileWriter Path Content) (path : Path) (content : Content) :
    FileWriter Path Content :=
  { writer with
    files := writer.files ++ [(path, content)]
    created := writer.created ++ [path] }

/-- One atomic write. -/
def FileWriter.write (writer : FileWriter Path Content) (error : Error) (path : Path)
    (content : Content) : WriteResult Path Content Error :=
  match writer.fault with
  | none => .ok (writer.add path content)
  | some ⟨n + 1, kind⟩ =>
      .ok { writer.add path content with fault := some ⟨n, kind⟩ }
  | some ⟨0, .failed⟩ => .error (.failed error, writer)
  | some ⟨0, .stoppedBefore⟩ => .error (.stopped, writer)
  | some ⟨0, .stoppedAfter⟩ => .error (.stopped, writer.add path content)

/-- A script of writes; the error of a failed one names its path. -/
def FileWriter.writeAll (writer : FileWriter Path Content) (error : Path → Error) :
    List (Path × Content) → WriteResult Path Content Error
  | [] => .ok writer
  | file :: rest =>
      (writer.write (error file.1) file.1 file.2).bind fun next =>
        next.writeAll error rest

/-- The writer after a script that met no fault. -/
def FileWriter.addAll (writer : FileWriter Path Content) (script : List (Path × Content)) :
    FileWriter Path Content :=
  { files := writer.files ++ script
    created := writer.created ++ script.map (·.1)
    fault := writer.fault.map fun fault =>
      ⟨fault.passes - script.length, fault.kind⟩ }

theorem FileWriter.writeAll_append (writer : FileWriter Path Content) (error : Path → Error)
    (first second : List (Path × Content)) :
    writer.writeAll error (first ++ second) =
      (writer.writeAll error first).bind fun next => next.writeAll error second := by
  induction first generalizing writer with
  | nil => rfl
  | cons file rest ih =>
      rw [List.cons_append, FileWriter.writeAll, FileWriter.writeAll]
      cases hwrite : writer.write (error file.1) file.1 file.2 with
      | error interrupted => rfl
      | ok next => exact ih next

theorem FileWriter.files_of_write {writer next : FileWriter Path Content} {error : Error}
    {path : Path} {content : Content}
    (hwrite : writer.write error path content = .ok next) :
    next.files = writer.files ++ [(path, content)] := by
  rw [FileWriter.write] at hwrite
  split at hwrite
  · cases hwrite
    rfl
  · cases hwrite
    rfl
  · cases hwrite
  · cases hwrite
  · cases hwrite

theorem FileWriter.files_of_writeAll {writer next : FileWriter Path Content}
    {error : Path → Error} {script : List (Path × Content)}
    (hwrite : writer.writeAll error script = .ok next) :
    next.files = writer.files ++ script := by
  induction script generalizing writer with
  | nil =>
      cases hwrite
      rw [List.append_nil]
  | cons file rest ih =>
      rw [FileWriter.writeAll] at hwrite
      cases hfirst : writer.write (error file.1) file.1 file.2 with
      | error interrupted => simp [hfirst, Except.bind] at hwrite
      | ok middle =>
          rw [hfirst] at hwrite
          rw [ih hwrite, FileWriter.files_of_write hfirst, List.append_assoc]
          rfl

/-- A script that ends before the fault strikes is written completely. -/
theorem FileWriter.writeAll_of_passes (writer : FileWriter Path Content)
    (error : Path → Error) {script : List (Path × Content)}
    (hpasses : ∀ fault, writer.fault = some fault → script.length ≤ fault.passes) :
    writer.writeAll error script = .ok (writer.addAll script) := by
  induction script generalizing writer with
  | nil =>
      obtain ⟨files, created, fault⟩ := writer
      cases fault <;> simp [FileWriter.writeAll, FileWriter.addAll]
  | cons file rest ih =>
      rw [FileWriter.writeAll, FileWriter.write]
      cases hfault : writer.fault with
      | none =>
          simp only [Except.bind]
          rw [ih _ (by simp [FileWriter.add, hfault])]
          simp [FileWriter.addAll, FileWriter.add, hfault]
      | some fault =>
          have hlength := hpasses fault hfault
          obtain ⟨passes, kind⟩ := fault
          cases passes with
          | zero => simp at hlength
          | succ n =>
              simp only [Except.bind]
              have hrest : rest.length ≤ n := by simpa using hlength
              rw [ih _ (by rintro fault ⟨⟩; exact hrest)]
              simp [FileWriter.addAll, FileWriter.add, hfault]

/-- A fault within a script leaves the prefix that took effect. -/
theorem FileWriter.writeAll_of_fault (writer : FileWriter Path Content) (error : Path → Error)
    {script : List (Path × Content)} {fault : Fault}
    (hfault : writer.fault = some fault) (hstrikes : fault.passes < script.length) :
    ∃ path last, writer.writeAll error script =
        .error (fault.kind.interrupt (error path), last) ∧
      last.files = writer.files ++ script.take fault.effective := by
  induction script generalizing writer fault with
  | nil => simp at hstrikes
  | cons file rest ih =>
      obtain ⟨passes, kind⟩ := fault
      rw [FileWriter.writeAll, FileWriter.write, hfault]
      cases passes with
      | zero =>
          cases kind with
          | failed => exact ⟨file.1, writer, rfl, by simp [Fault.effective]⟩
          | stoppedBefore => exact ⟨file.1, writer, rfl, by simp [Fault.effective]⟩
          | stoppedAfter =>
              exact ⟨file.1, writer.add file.1 file.2, rfl,
                by simp [Fault.effective, FileWriter.add]⟩
      | succ n =>
          have hrest : n < rest.length := by simpa using hstrikes
          obtain ⟨path, last, hlast, hfiles⟩ :=
            ih { writer.add file.1 file.2 with fault := some ⟨n, kind⟩ } rfl hrest
          refine ⟨path, last, hlast, ?_⟩
          rw [hfiles]
          cases kind <;> simp [Fault.effective, FileWriter.add]

/-! ### Growth -/

section Growth

variable [DecidableEq Path]

/-- A writer only ever added files, at paths that were free. -/
def FileWriter.GrownFrom (base : Files Path Content) (writer : FileWriter Path Content) : Prop :=
  ∃ added : Files Path Content, writer.files = base ++ added ∧
    writer.created = added.map (·.1) ∧ ∀ path ∈ writer.created, base.read path = none

/-- The writer a run ends with, early or not. -/
def lastWriter (result : WriteResult Path Content Error) : FileWriter Path Content :=
  match result with
  | .ok writer => writer
  | .error (_, writer) => writer

theorem FileWriter.GrownFrom.add {base : Files Path Content}
    {writer : FileWriter Path Content} (hgrown : writer.GrownFrom base) {path : Path}
    (hfree : writer.files.read path = none) (content : Content) :
    (writer.add path content).GrownFrom base := by
  obtain ⟨added, hfiles, hcreated, hpaths⟩ := hgrown
  refine ⟨added ++ [(path, content)], ?_, ?_, ?_⟩
  · simp [FileWriter.add, hfiles]
  · simp [FileWriter.add, hcreated]
  · intro other hmem
    rcases List.mem_append.1 hmem with hold | hnew
    · exact hpaths other hold
    · rw [List.mem_singleton] at hnew
      subst hnew
      rw [Files.read_eq_none_iff] at hfree ⊢
      intro hbase
      apply hfree
      rw [hfiles, List.map_append]
      exact List.mem_append_left _ hbase

theorem FileWriter.GrownFrom.write {base : Files Path Content}
    {writer : FileWriter Path Content} (hgrown : writer.GrownFrom base) (error : Error)
    {path : Path} (hfree : writer.files.read path = none) (content : Content) :
    (lastWriter (writer.write error path content)).GrownFrom base := by
  have hadded := hgrown.add hfree content
  rw [FileWriter.write]
  split
  · exact hadded
  · exact hadded
  · exact hgrown
  · exact hgrown
  · exact hadded

/-- Growth goes on through a sequence of runs. -/
theorem grownFrom_bind {base : Files Path Content}
    {result : WriteResult Path Content Error}
    {continue_ : FileWriter Path Content → WriteResult Path Content Error}
    (hfirst : (lastWriter result).GrownFrom base)
    (hsecond : ∀ writer, writer.GrownFrom base →
      (lastWriter (continue_ writer)).GrownFrom base) :
    (lastWriter (result.bind continue_)).GrownFrom base := by
  cases result with
  | error interrupted => exact hfirst
  | ok writer => exact hsecond writer hfirst

/-- Cleaning up a grown writer restores the files it started from. -/
theorem FileWriter.GrownFrom.cleanup {base : Files Path Content}
    {writer : FileWriter Path Content} (hgrown : writer.GrownFrom base) :
    writer.files.unlinkAll writer.created = base := by
  obtain ⟨added, hfiles, hcreated, hpaths⟩ := hgrown
  rw [hfiles, hcreated]
  apply Files.unlinkAll_append
  rw [← hcreated]
  exact hpaths

theorem FileWriter.GrownFrom.read {base : Files Path Content}
    {writer : FileWriter Path Content} (hgrown : writer.GrownFrom base) {path : Path}
    {content : Content} (hread : base.read path = some content) :
    writer.files.read path = some content := by
  obtain ⟨added, hfiles, _⟩ := hgrown
  rw [hfiles]
  exact Files.read_append added hread

end Growth

end GovernedRuntime.Library
