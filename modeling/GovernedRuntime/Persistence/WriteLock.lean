/-
The lock file of the session state (`src/adapters/persistence-lock.ts`): acquisition
with stale recovery and token-protected release, one file-system call at a time, for
any number of acquisitions in processes that may crash between any two calls.
-/
import GovernedRuntime.Library.Schedule
import Mathlib.Logic.Function.Basic
import Mathlib.Tactic.SplitIfs

namespace GovernedRuntime.Persistence

open GovernedRuntime.Library

variable {Client : Type}

/-! ### Acquisitions -/

/-- The text of the lock file: the `pid` and `token` lines of one acquisition, or a
text without a pid line.  Tokens are random, one for each acquisition. -/
inductive LockBody (Client : Type) where
  | content (owner : Client)
  | malformed
deriving DecidableEq

/-- Where an acquisition stands; the name is the call it makes next. -/
inductive Stage (Client : Type) where
  | idle
  | create
  | read
  | checkProcess (observed : LockBody Client)
  | confirm (observed : LockBody Client)
  | removeStale (observed : LockBody Client)
  | poll
  /-- The lock is acquired and `release` is not called yet. -/
  | holding
  | releaseRead
  | releaseUnlink
  | released
  /-- The acquisition threw. -/
  | failed
  | crashed
deriving DecidableEq

/-- From the creation of the lock file to the end of its release. -/
def Stage.Owns : Stage Client → Prop
  | .holding | .releaseRead | .releaseUnlink => True
  | _ => False

instance : DecidablePred (@Stage.Owns Client) := fun stage => by
  cases stage <;> simp only [Stage.Owns] <;> infer_instance

/-- The stage a crash leaves an acquisition of the process in. -/
def Stage.afterCrash : Stage Client → Stage Client
  | .idle => .idle
  | _ => .crashed

theorem Stage.not_owns_afterCrash (stage : Stage Client) : ¬ stage.afterCrash.Owns := by
  cases stage <;> exact id

/-- The lock file, the processes that are alive, and every acquisition. -/
structure LockState (Client : Type) where
  file : Option (LockBody Client)
  alive : Nat → Bool
  stage : Client → Stage Client

/-- Before any acquisition: no file, or one that is nobody's lock. -/
structure LockState.Initial (s : LockState Client) : Prop where
  idle : ∀ client, s.stage client = .idle
  unowned : ∀ client, s.file ≠ some (.content client)

section Protocol

variable [DecidableEq Client] (pidOf : Client → Nat)

/-- Stale exactly when the process of its pid is not alive. -/
def isBodyStale (s : LockState Client) : LockBody Client → Bool
  | .content owner => !s.alive (pidOf owner)
  | .malformed => false

def LockState.goto (s : LockState Client) (client : Client) (stage : Stage Client) :
    LockState Client :=
  { s with stage := Function.update s.stage client stage }

/-- The next call of an acquisition and what follows until the one after it.  With
`fault` the call throws; at `poll` it is the deadline that has passed. -/
def LockState.advance (s : LockState Client) (client : Client) (fault : Bool) :
    Option (LockState Client) :=
  match s.stage client with
  | .idle => if s.alive (pidOf client) then some (s.goto client .create) else none
  | .create =>
      if fault then some (s.goto client .failed)
      else match s.file with
        | none => some ({ s with file := some (.content client) }.goto client .holding)
        | some _ => some (s.goto client .read)
  | .read =>
      -- an unreadable body counts as a live one
      if fault then some (s.goto client .poll)
      else match s.file with
        | none => some (s.goto client .create)
        | some observed => some (s.goto client (.checkProcess observed))
  | .checkProcess observed =>
      if !fault && isBodyStale pidOf s observed then some (s.goto client (.confirm observed))
      else some (s.goto client .poll)
  | .confirm observed =>
      if !fault && s.file == some observed then some (s.goto client (.removeStale observed))
      else some (s.goto client .poll)
  | .removeStale _ =>
      if fault then some (s.goto client .failed)
      else some ({ s with file := none }.goto client .create)
  | .poll => some (s.goto client (if fault then .failed else .create))
  | .holding => some (s.goto client .releaseRead)
  | .releaseRead =>
      if !fault && s.file == some (.content client) then
        some (s.goto client .releaseUnlink)
      else some (s.goto client .released)
  | .releaseUnlink =>
      if fault then some (s.goto client .released)
      else some ({ s with file := none }.goto client .released)
  | .released | .failed | .crashed => none

inductive LockAction (Client : Type) where
  | advance (client : Client) (fault : Bool)
  /-- A process ends, in the middle of whatever its acquisitions do. -/
  | crash (pid : Nat)
  /-- A process starts, possibly with the pid of one that has ended. -/
  | spawn (pid : Nat)

def LockState.step (s : LockState Client) : LockAction Client → Option (LockState Client)
  | .advance client fault => s.advance pidOf client fault
  | .crash pid =>
      some
        { s with
          alive := Function.update s.alive pid false
          stage := fun client =>
            if pidOf client = pid then (s.stage client).afterCrash else s.stage client }
  | .spawn pid => some { s with alive := Function.update s.alive pid true }

end Protocol

/-! ### Exclusion -/

/-- No two acquisitions own the lock, and a release that is about to unlink finds
its own file or none. -/
structure Exclusive (s : LockState Client) : Prop where
  owners : ∀ first second, (s.stage first).Owns → (s.stage second).Owns → first = second
  releases : ∀ client body, s.stage client = .releaseUnlink → s.file = some body →
    body = .content client

/-- A recovering process does not unlink a file that belongs to an owner. -/
def removesUnowned (s : LockState Client) : LockAction Client → Bool
  | .advance client false =>
      match s.stage client, s.file with
      | .removeStale _, some (.content owner) => !decide (s.stage owner).Owns
      | _, _ => true
  | _ => true

theorem removesUnowned_iff {s : LockState Client} {client : Client}
    {observed : LockBody Client} (hstage : s.stage client = .removeStale observed) :
    removesUnowned s (.advance client false) = true ↔
      ∀ owner, s.file = some (.content owner) → ¬ (s.stage owner).Owns := by
  simp only [removesUnowned, hstage]
  rcases s.file with _ | owner | _ <;> simp

abbrev RemovesUnowned (s : LockState Client) (action : LockAction Client) : Prop :=
  removesUnowned s action = true

/-- Whoever owns the lock created the file that is there. -/
def OwnersHold (s : LockState Client) : Prop :=
  ∀ client, (s.stage client).Owns → s.file = some (.content client)

theorem OwnersHold.exclusive {s : LockState Client} (hhold : OwnersHold s) :
    Exclusive s where
  owners := by
    intro first second hfirst hsecond
    have hsame := (hhold first hfirst).symm.trans (hhold second hsecond)
    simpa using hsame
  releases := by
    intro client body hstage hfile
    have hown := hhold client (by rw [hstage]; trivial)
    rw [hfile] at hown
    simpa using hown

/-! ### What one call can do -/

/-- The body a waiting acquisition has read and acts on. -/
def Stage.observed : Stage Client → Option (LockBody Client)
  | .checkProcess observed => some observed
  | .confirm observed => some observed
  | .removeStale observed => some observed
  | _ => none

/-- The body a waiting acquisition has judged stale. -/
def Stage.judged : Stage Client → Option (LockBody Client)
  | .confirm observed => some observed
  | .removeStale observed => some observed
  | _ => none

/-- The acquisition has created the lock file at some time. -/
def Stage.Created : Stage Client → Prop
  | .holding | .releaseRead | .releaseUnlink | .released | .crashed => True
  | _ => False

/-- The acquisition makes no further call. -/
def Stage.Ended : Stage Client → Prop
  | .released | .failed | .crashed => True
  | _ => False

theorem Stage.Ended.not_owns {stage : Stage Client} (hended : stage.Ended) :
    ¬ stage.Owns := by
  cases stage <;> first | exact id | exact hended.elim

theorem Stage.Ended.afterCrash {stage : Stage Client} (hended : stage.Ended) :
    stage.afterCrash.Ended := by
  cases stage <;> trivial

theorem Stage.Created.afterCrash {stage : Stage Client} (hcreated : stage.Created) :
    stage.afterCrash.Created := by
  cases stage <;> trivial

theorem Stage.ended_afterCrash {stage : Stage Client} (hidle : stage.afterCrash ≠ .idle) :
    stage.afterCrash.Ended := by
  cases stage <;> trivial

theorem Stage.observed_afterCrash (stage : Stage Client) :
    stage.afterCrash.observed = none := by
  cases stage <;> rfl

theorem Stage.judged_afterCrash (stage : Stage Client) :
    stage.afterCrash.judged = none := by
  cases stage <;> rfl

theorem Stage.judged_eq_none {stage : Stage Client} (hunread : stage.observed = none) :
    stage.judged = none := by
  cases stage <;> first | rfl | cases hunread

section Moves

variable [DecidableEq Client] {pidOf : Client → Nat} {s t : LockState Client}
  {client : Client} {fault : Bool}

@[simp] theorem goto_file (stage : Stage Client) : (s.goto client stage).file = s.file := rfl

@[simp] theorem goto_alive (stage : Stage Client) : (s.goto client stage).alive = s.alive :=
  rfl

theorem goto_stage (stage : Stage Client) (other : Client) :
    (s.goto client stage).stage other = if other = client then stage else s.stage other :=
  Function.update_apply ..

/-- What one advance can do to the file and to the stage of its acquisition. -/
inductive Advance (pidOf : Client → Nat) (s : LockState Client) (client : Client)
    (fault : Bool) : LockState Client → Prop where
  | moves (stage : Stage Client) (hunread : stage.observed = none)
      (howns : stage.Owns → (s.stage client).Owns)
      (hcreated : (s.stage client).Created → stage.Created)
      (hrunning : ¬ (s.stage client).Ended)
      (halive : s.stage client = .idle → s.alive (pidOf client) = true) :
      Advance pidOf s client fault (s.goto client stage)
  | creates (hstage : s.stage client = .create) (hfile : s.file = none) :
      Advance pidOf s client fault
        ({ s with file := some (.content client) }.goto client .holding)
  | reads (observed : LockBody Client) (hstage : s.stage client = .read)
      (hfile : s.file = some observed) :
      Advance pidOf s client fault (s.goto client (.checkProcess observed))
  | judges (observed : LockBody Client) (hstage : s.stage client = .checkProcess observed)
      (hstale : isBodyStale pidOf s observed = true) :
      Advance pidOf s client fault (s.goto client (.confirm observed))
  | confirms (observed : LockBody Client) (hstage : s.stage client = .confirm observed)
      (hfile : s.file = some observed) :
      Advance pidOf s client fault (s.goto client (.removeStale observed))
  | removes (observed : LockBody Client) (hstage : s.stage client = .removeStale observed)
      (hdone : fault = false) :
      Advance pidOf s client fault ({ s with file := none }.goto client .create)
  | unlinks (hstage : s.stage client = .releaseUnlink) :
      Advance pidOf s client fault ({ s with file := none }.goto client .released)

theorem advance_of_some (hadvance : s.advance pidOf client fault = some t) :
    Advance pidOf s client fault t := by
  unfold LockState.advance at hadvance
  have hquiet : ∀ stage : Stage Client, s.stage client ≠ .idle →
      ¬ (s.stage client).Ended → stage.observed = none →
        (stage.Owns → (s.stage client).Owns) →
          ((s.stage client).Created → stage.Created) →
            Advance pidOf s client fault (s.goto client stage) :=
    fun stage hidle hrunning hunread howns hcreated =>
      .moves stage hunread howns hcreated hrunning fun hstage => absurd hstage hidle
  cases hstage : s.stage client <;> simp only [hstage] at hadvance hquiet
  case idle =>
    split_ifs at hadvance with halive
    cases hadvance
    exact .moves _ rfl False.elim (by rw [hstage]; exact False.elim)
      (by rw [hstage]; exact id) fun _ => halive
  case create =>
    split_ifs at hadvance with hfault
    · cases hadvance
      exact hquiet _ nofun id rfl id id
    · split at hadvance <;> cases hadvance
      · exact .creates hstage (by assumption)
      · exact hquiet _ nofun id rfl id id
  case read =>
    split_ifs at hadvance with hfault
    · cases hadvance
      exact hquiet _ nofun id rfl id id
    · split at hadvance <;> cases hadvance
      · exact hquiet _ nofun id rfl id id
      · exact .reads _ hstage (by assumption)
  case checkProcess observed =>
    split_ifs at hadvance with hstale <;> cases hadvance
    · exact .judges observed hstage (by simp_all)
    · exact hquiet _ nofun id rfl id id
  case confirm observed =>
    split_ifs at hadvance with hsame <;> cases hadvance
    · exact .confirms observed hstage (by simp_all)
    · exact hquiet _ nofun id rfl id id
  case removeStale observed =>
    split_ifs at hadvance with hfault <;> cases hadvance
    · exact hquiet _ nofun id rfl id id
    · exact .removes observed hstage (by simpa using hfault)
  case poll =>
    cases hadvance
    exact hquiet _ nofun id (by cases fault <;> rfl) (by cases fault <;> exact id)
      (by cases fault <;> exact id)
  case holding =>
    cases hadvance
    exact hquiet _ nofun id rfl id id
  case releaseRead =>
    split_ifs at hadvance with hsame <;> cases hadvance <;>
      exact hquiet _ nofun id rfl (fun _ => trivial) fun _ => trivial
  case releaseUnlink =>
    split_ifs at hadvance with hfault <;> cases hadvance
    · exact hquiet _ nofun id rfl False.elim fun _ => trivial
    · exact .unlinks hstage
  all_goals cases hadvance

/-! ### The invariant of the allowed runs -/

theorem owns_of_goto {stage : Stage Client} {owner : Client} (hstage : ¬ stage.Owns)
    (howns : ((s.goto client stage).stage owner).Owns) :
    owner ≠ client ∧ (s.stage owner).Owns := by
  rw [goto_stage] at howns
  split_ifs at howns with hclient
  · exact absurd howns hstage
  · exact ⟨hclient, howns⟩

theorem OwnersHold.advance (hhold : OwnersHold s)
    (hunowned : ∀ observed, s.stage client = .removeStale observed → fault = false →
      ∀ owner, s.file = some (.content owner) → ¬ (s.stage owner).Owns)
    (hadvance : Advance pidOf s client fault t) : OwnersHold t := by
  intro owner howns
  cases hadvance with
  | moves stage _ hsame _ _ _ =>
      rw [goto_stage] at howns
      split_ifs at howns with hclient
      · exact hclient ▸ hhold client (hsame howns)
      · exact hhold owner howns
  | creates hstage hfile =>
      rw [goto_stage] at howns
      split_ifs at howns with hclient
      · exact hclient ▸ rfl
      · have hother := hhold owner howns
        rw [hfile] at hother
        cases hother
  | reads observed hstage hfile => exact hhold owner (owns_of_goto id howns).2
  | judges observed hstage hstale => exact hhold owner (owns_of_goto id howns).2
  | confirms observed hstage hfile => exact hhold owner (owns_of_goto id howns).2
  | removes observed hstage hdone =>
      have howned := (owns_of_goto id howns).2
      exact absurd howned (hunowned observed hstage hdone owner (hhold owner howned))
  | unlinks hstage =>
      obtain ⟨hclient, howned⟩ := owns_of_goto id howns
      have hself := hhold client (by rw [hstage]; trivial)
      rw [hhold owner howned] at hself
      exact absurd (by simpa using hself) hclient

theorem OwnersHold.step {action : LockAction Client} (hhold : OwnersHold s)
    (hunowned : RemovesUnowned s action) (hstep : s.step pidOf action = some t) :
    OwnersHold t := by
  cases action with
  | advance client fault =>
      refine hhold.advance (fun observed hstage hdone => ?_) (advance_of_some hstep)
      exact (removesUnowned_iff hstage).1 (hdone ▸ hunowned)
  | crash pid =>
      cases hstep
      intro owner howns
      simp only at howns ⊢
      split_ifs at howns with hcrashed
      · exact absurd howns (Stage.not_owns_afterCrash _)
      · exact hhold owner howns
  | spawn pid =>
      cases hstep
      exact hhold

/-! ### What the stale check establishes -/

theorem Advance.stage_of_ne {other : Client} (hadvance : Advance pidOf s client fault t)
    (hother : other ≠ client) : t.stage other = s.stage other := by
  cases hadvance <;> rw [goto_stage, if_neg hother]

theorem Advance.alive_eq (hadvance : Advance pidOf s client fault t) :
    t.alive = s.alive := by
  cases hadvance <;> rfl

/-- An acquisition that has ended makes no call. -/
theorem Advance.not_ended (hadvance : Advance pidOf s client fault t) :
    ¬ (s.stage client).Ended := by
  cases hadvance with
  | moves _ _ _ _ hrunning _ => exact hrunning
  | creates hstage _ => exact hstage ▸ id
  | reads _ hstage _ => exact hstage ▸ id
  | judges _ hstage _ => exact hstage ▸ id
  | confirms _ hstage _ => exact hstage ▸ id
  | removes _ hstage _ => exact hstage ▸ id
  | unlinks hstage => exact hstage ▸ id

theorem Advance.created {other : Client} (hadvance : Advance pidOf s client fault t)
    (hcreated : (s.stage other).Created) : (t.stage other).Created := by
  by_cases hother : other = client
  · subst hother
    cases hadvance with
    | moves _ _ _ hsame _ _ => rw [goto_stage, if_pos rfl]; exact hsame hcreated
    | creates _ _ => rw [goto_stage, if_pos rfl]; trivial
    | reads _ hstage _ => rw [hstage] at hcreated; exact hcreated.elim
    | judges _ hstage _ => rw [hstage] at hcreated; exact hcreated.elim
    | confirms _ hstage _ => rw [hstage] at hcreated; exact hcreated.elim
    | removes _ hstage _ => rw [hstage] at hcreated; exact hcreated.elim
    | unlinks _ => rw [goto_stage, if_pos rfl]; trivial
  · rw [hadvance.stage_of_ne hother]
    exact hcreated

theorem Advance.ended {other : Client} (hadvance : Advance pidOf s client fault t)
    (hended : (s.stage other).Ended) : (t.stage other).Ended := by
  have hother : other ≠ client := fun hsame => hadvance.not_ended (hsame ▸ hended)
  rw [hadvance.stage_of_ne hother]
  exact hended

theorem Advance.file_eq {body : LockBody Client} (hadvance : Advance pidOf s client fault t)
    (hfile : t.file = some body) :
    s.file = some body ∨ body = .content client ∧ (t.stage client).Created := by
  cases hadvance with
  | creates _ _ =>
      refine .inr ⟨?_, by rw [goto_stage, if_pos rfl]; trivial⟩
      exact ((Option.some.injEq ..).mp hfile).symm
  | removes _ _ _ => cases hfile
  | unlinks _ => cases hfile
  | moves _ _ _ _ _ _ => exact .inl hfile
  | reads _ _ _ => exact .inl hfile
  | judges _ _ _ => exact .inl hfile
  | confirms _ _ _ => exact .inl hfile

/-- A body is acted on because it was, or because it is read now. -/
theorem Advance.observed_eq {other : Client} {body : LockBody Client}
    (hadvance : Advance pidOf s client fault t)
    (hobserved : (t.stage other).observed = some body) :
    (s.stage other).observed = some body ∨ s.file = some body := by
  by_cases hother : other = client
  · subst hother
    cases hadvance with
    | moves stage hunread _ _ _ _ =>
        rw [goto_stage, if_pos rfl, hunread] at hobserved
        cases hobserved
    | reads observed hstage hfile =>
        rw [goto_stage, if_pos rfl] at hobserved
        exact .inr (hfile.trans hobserved)
    | judges observed hstage _ =>
        rw [goto_stage, if_pos rfl] at hobserved
        exact .inl (hstage ▸ hobserved)
    | confirms observed hstage _ =>
        rw [goto_stage, if_pos rfl] at hobserved
        exact .inl (hstage ▸ hobserved)
    | creates _ _ => rw [goto_stage, if_pos rfl] at hobserved; cases hobserved
    | removes _ _ _ => rw [goto_stage, if_pos rfl] at hobserved; cases hobserved
    | unlinks _ => rw [goto_stage, if_pos rfl] at hobserved; cases hobserved
  · rw [hadvance.stage_of_ne hother] at hobserved
    exact .inl hobserved

/-- A body is judged because it was, or because it was read and is stale now. -/
theorem Advance.judged_eq {other : Client} {body : LockBody Client}
    (hadvance : Advance pidOf s client fault t)
    (hjudged : (t.stage other).judged = some body) :
    (s.stage other).judged = some body ∨
      (s.stage other).observed = some body ∧ isBodyStale pidOf s body = true := by
  by_cases hother : other = client
  · subst hother
    cases hadvance with
    | moves stage hunread _ _ _ _ =>
        rw [goto_stage, if_pos rfl, Stage.judged_eq_none hunread] at hjudged
        cases hjudged
    | judges observed hstage hstale =>
        rw [goto_stage, if_pos rfl] at hjudged
        cases hjudged
        exact .inr ⟨by rw [hstage]; rfl, hstale⟩
    | confirms observed hstage _ =>
        rw [goto_stage, if_pos rfl] at hjudged
        exact .inl (hstage ▸ hjudged)
    | reads _ _ _ => rw [goto_stage, if_pos rfl] at hjudged; cases hjudged
    | creates _ _ => rw [goto_stage, if_pos rfl] at hjudged; cases hjudged
    | removes _ _ _ => rw [goto_stage, if_pos rfl] at hjudged; cases hjudged
    | unlinks _ => rw [goto_stage, if_pos rfl] at hjudged; cases hjudged
  · rw [hadvance.stage_of_ne hother] at hjudged
    exact .inl hjudged

/-- What every reached state says of the bodies that were read and judged. -/
structure Judged (pidOf : Client → Nat) (s : LockState Client) : Prop where
  alive : ∀ client, s.stage client ≠ .idle → ¬ (s.stage client).Ended →
    s.alive (pidOf client) = true
  file : ∀ owner, s.file = some (.content owner) → (s.stage owner).Created
  observed : ∀ client owner, (s.stage client).observed = some (.content owner) →
    (s.stage owner).Created
  judged : ∀ client owner, (s.stage client).judged = some (.content owner) →
    (s.stage owner).Ended

theorem Judged.advance (hjudged : Judged pidOf s) (hadvance : Advance pidOf s client fault t) :
    Judged pidOf t where
  alive := by
    intro other hidle hrunning
    rw [hadvance.alive_eq]
    by_cases hother : other = client
    · subst hother
      by_cases hold : s.stage other = .idle
      · cases hadvance with
        | moves _ _ _ _ _ halive => exact halive hold
        | creates hstage _ => rw [hold] at hstage; cases hstage
        | reads _ hstage _ => rw [hold] at hstage; cases hstage
        | judges _ hstage _ => rw [hold] at hstage; cases hstage
        | confirms _ hstage _ => rw [hold] at hstage; cases hstage
        | removes _ hstage _ => rw [hold] at hstage; cases hstage
        | unlinks hstage => rw [hold] at hstage; cases hstage
      · exact hjudged.alive other hold hadvance.not_ended
    · rw [hadvance.stage_of_ne hother] at hidle hrunning
      exact hjudged.alive other hidle hrunning
  file := by
    intro owner hfile
    rcases hadvance.file_eq hfile with hsame | ⟨hown, hcreated⟩
    · exact hadvance.created (hjudged.file owner hsame)
    · rw [LockBody.content.injEq] at hown
      exact hown ▸ hcreated
  observed := by
    intro other owner hobserved
    rcases hadvance.observed_eq hobserved with hsame | hread
    · exact hadvance.created (hjudged.observed other owner hsame)
    · exact hadvance.created (hjudged.file owner hread)
  judged := by
    intro other owner hbody
    rcases hadvance.judged_eq hbody with hsame | ⟨hread, hstale⟩
    · exact hadvance.ended (hjudged.judged other owner hsame)
    · have hcreated := hjudged.observed other owner hread
      have hdead : s.alive (pidOf owner) = false := by simpa [isBodyStale] using hstale
      refine hadvance.ended (by_contra fun hrunning => ?_)
      have halive := hjudged.alive owner (fun hidle => by rw [hidle] at hcreated; exact hcreated)
        hrunning
      rw [hdead] at halive
      cases halive

theorem Judged.step {action : LockAction Client} (hjudged : Judged pidOf s)
    (hstep : s.step pidOf action = some t) : Judged pidOf t := by
  cases action with
  | advance client fault => exact hjudged.advance (advance_of_some hstep)
  | crash pid =>
      cases hstep
      refine ⟨?_, ?_, ?_, ?_⟩
      · intro client hidle hrunning
        simp only at hidle hrunning ⊢
        split_ifs at hidle hrunning with hpid
        · exact absurd (Stage.ended_afterCrash hidle) hrunning
        · rw [Function.update_of_ne hpid]
          exact hjudged.alive client hidle hrunning
      · intro owner hfile
        simp only
        split_ifs
        · exact (hjudged.file owner hfile).afterCrash
        · exact hjudged.file owner hfile
      · intro client owner hobserved
        simp only at hobserved ⊢
        split_ifs at hobserved with hclient
        · rw [Stage.observed_afterCrash] at hobserved
          cases hobserved
        · split_ifs
          · exact (hjudged.observed client owner hobserved).afterCrash
          · exact hjudged.observed client owner hobserved
      · intro client owner hbody
        simp only at hbody ⊢
        split_ifs at hbody with hclient
        · rw [Stage.judged_afterCrash] at hbody
          cases hbody
        · split_ifs
          · exact (hjudged.judged client owner hbody).afterCrash
          · exact hjudged.judged client owner hbody
  | spawn pid =>
      cases hstep
      refine ⟨?_, hjudged.file, hjudged.observed, hjudged.judged⟩
      intro client hidle hrunning
      by_cases hpid : pidOf client = pid
      · exact hpid ▸ Function.update_self ..
      · exact (Function.update_of_ne hpid ..).trans (hjudged.alive client hidle hrunning)

end Moves

/-! ### Mutual exclusion -/

section Runs

variable {pidOf : Client → Nat} {s t : LockState Client}

theorem LockState.Initial.ownersHold (hinit : s.Initial) : OwnersHold s := by
  intro client howns
  rw [hinit.idle client] at howns
  exact howns.elim

theorem LockState.Initial.judged (hinit : s.Initial) : Judged pidOf s where
  alive := fun client hidle => absurd (hinit.idle client) hidle
  file := fun owner hfile => absurd hfile (hinit.unowned owner)
  observed := by
    intro client owner hobserved
    rw [hinit.idle client] at hobserved
    cases hobserved
  judged := by
    intro client owner hjudged
    rw [hinit.idle client] at hjudged
    cases hjudged

variable [DecidableEq Client]

/-- While no recovering process unlinks a file that belongs to an owner, the lock has
one owner at most and a release removes only its own file. -/
theorem lock_exclusive (hinit : s.Initial)
    (hreaches : Reaches (LockState.step pidOf) RemovesUnowned s t) : Exclusive t :=
  (hreaches.invariant (fun hhold hunowned hstep => hhold.step hunowned hstep)
    hinit.ownersHold).exclusive

/-- The second read is enough when nothing comes between it and the unlink. -/
theorem removesUnowned_of_unchanged (hinit : s.Initial)
    (hreaches : Reaches (LockState.step pidOf) (fun _ _ => True) s t) {client : Client}
    {observed : LockBody Client} (hstage : t.stage client = .removeStale observed)
    (hunchanged : ∀ body, t.file = some body → body = observed) :
    RemovesUnowned t (.advance client false) := by
  rw [RemovesUnowned, removesUnowned_iff hstage]
  intro owner hfile
  have hjudged : Judged pidOf t :=
    hreaches.invariant (fun hjudged _ hstep => hjudged.step hstep) hinit.judged
  have hsame := hunchanged _ hfile
  exact (hjudged.judged client owner (by rw [hstage, ← hsame]; rfl)).not_owns

/-- Whoever unlinks the file of an owner creates the next one, and the lock then has
two owners. -/
theorem two_owners_of_removal {client owner : Client} {observed : LockBody Client}
    (hstage : s.stage client = .removeStale observed) (howns : (s.stage owner).Owns) :
    ∃ t, runSchedule (LockState.step pidOf) s
        [.advance client false, .advance client false] = some t ∧
      client ≠ owner ∧ (t.stage client).Owns ∧ (t.stage owner).Owns := by
  have hother : owner ≠ client := by
    rintro rfl
    rw [hstage] at howns
    exact howns
  refine ⟨{ s with
    file := some (.content client)
    stage := Function.update (Function.update s.stage client .create) client .holding },
    ?_, hother.symm, ?_, ?_⟩
  · simp [runSchedule, LockState.step, LockState.advance, LockState.goto, hstage]
  · simp only [Function.update_self]
    trivial
  · simpa only [Function.update_of_ne hother] using howns

end Runs

/-! ### Two waiters at one stale lock -/

inductive Contender where
  | dead
  | first
  | second
deriving DecidableEq

def Contender.pid : Contender → Nat
  | .dead => 0
  | .first => 1
  | .second => 2

/-- No lock file, and three acquisitions in three live processes. -/
def contenders : LockState Contender :=
  { file := none
    alive := fun _ => true
    stage := fun _ => .idle }

theorem contenders_initial : contenders.Initial := ⟨fun _ => rfl, fun _ => nofun⟩

/-- A lock is taken and its process crashes; both others find it stale and confirm it
before the second of them removes it and acquires. -/
def staleTakeover : List (LockAction Contender) :=
  [.advance .dead false, .advance .dead false, .crash 0] ++
    List.replicate 5 (.advance .first false) ++
    List.replicate 7 (.advance .second false)

/-- The first contender confirms the file of the crashed one and may remove it. -/
theorem removesUnowned_takeover :
    ∃ t, runSchedule (LockState.step Contender.pid) contenders (staleTakeover.take 8) = some t ∧
      t.stage .first = .removeStale (.content .dead) ∧ t.file = some (.content .dead) ∧
        RemovesUnowned t (.advance .first false) :=
  ⟨_, rfl, rfl, rfl, removesUnowned_of_unchanged contenders_initial
    (reaches_of_schedule (show runSchedule (LockState.step Contender.pid) contenders
      (staleTakeover.take 8) = some _ from rfl)) rfl
    fun _ hfile => (Option.some.inj hfile).symm⟩

theorem lock_exclusive_takeover :
    contenders.Initial ∧
      ∃ t, runSchedule (LockState.step Contender.pid) contenders staleTakeover = some t ∧
        t.stage .second = .holding ∧ Exclusive t :=
  ⟨contenders_initial, _, rfl, rfl,
    lock_exclusive contenders_initial
      (reaches_of_runSchedule (fun _ _ => id)
        (show runSchedule (fun s action =>
          if removesUnowned s action then s.step Contender.pid action else none)
          contenders staleTakeover = some _ from rfl))⟩

/-- The first one then removes the lock of the second and acquires as well; and when
the second has just checked its token, its release removes the lock of the first. -/
theorem lock_exclusive_counterexample :
    contenders.Initial ∧
    (∃ t, runSchedule (LockState.step Contender.pid) contenders
        (staleTakeover ++ List.replicate 2 (.advance .first false)) = some t ∧
      t.stage .first = .holding ∧ t.stage .second = .holding ∧
        t.alive Contender.first.pid = true ∧ t.alive Contender.second.pid = true) ∧
    ∃ t u, runSchedule (LockState.step Contender.pid) contenders
        (staleTakeover ++ List.replicate 2 (.advance .second false) ++
          List.replicate 2 (.advance .first false)) = some t ∧
      t.stage .first = .holding ∧ t.stage .second = .releaseUnlink ∧
        t.file = some (.content .first) ∧
      t.step Contender.pid (.advance .second false) = some u ∧ u.file = none :=
  ⟨contenders_initial, ⟨_, rfl, rfl, rfl, rfl, rfl⟩, ⟨_, _, rfl, rfl, rfl, rfl, rfl, rfl⟩⟩

end GovernedRuntime.Persistence
