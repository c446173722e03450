/-
Retrying under the session write lock (`src/adapters/lock-retry.ts`): which errors are
taken for a busy lock, and when an operation runs once and the call ends as it ended.
-/
import Mathlib.Data.List.Basic

namespace GovernedRuntime.Adapters

/-! ### What may happen -/

/-- What one attempt meets, as far as it gets.  The operation may have released the
lock itself, and may have taken effect before it throws. -/
structure LockAttempt (Result Failure : Type) where
  acquisition : Except Failure Unit
  operation : Except Failure Result
  releasedEarly : Bool
  release : Except Failure Unit
  onRetry : Except Failure Unit

inductive LockErrorSource
  | acquisition
  | operation
  | release
deriving DecidableEq, Repr

/-- The errors a call ends with. -/
inductive LockRetryError (Failure : Type)
  | thrown (source : LockErrorSource) (error : Failure)
  | onRetry (error : Failure)
  | exhausted (message : String)
deriving DecidableEq, Repr

/-- What is done to the lock and the operation, with the number of the attempt. -/
inductive LockEvent
  | acquired (attempt : Nat)
  | started (attempt : Nat)
  | released (attempt : Nat)
deriving DecidableEq, Repr

structure LockRun (Error Result : Type) where
  events : List LockEvent
  ending : Except Error Result
deriving DecidableEq, Repr

/-- The errors of the world: which are a `PersistenceError` with the code
`LOCK_TIMEOUT`, and their messages. -/
structure LockErrors (Failure : Type) where
  isTransientLockTimeout : Failure → Bool
  message : Failure → String

variable {Result Failure Delay : Type}

/-! ### The source -/

/-- An error of the release in the `finally` replaces what the operation ended with. -/
def runUnderSessionWriteLock (number : Nat) (attempt : LockAttempt Result Failure) :
    LockRun (LockErrorSource × Failure) Result :=
  match attempt.acquisition with
  | .error error => ⟨[], .error (.acquisition, error)⟩
  | .ok () =>
      let early := if attempt.releasedEarly then [LockEvent.released number] else []
      match attempt.release with
      | .error error => ⟨[.acquired number, .started number] ++ early, .error (.release, error)⟩
      | .ok () =>
          ⟨[.acquired number, .started number] ++ early ++ [.released number],
            attempt.operation.mapError (.operation, ·)⟩

/-- The attempts from a number on, with the delays that are left. -/
def attemptsFrom (errors : LockErrors Failure) (exhausted : Failure → String)
    (attempts : Nat → LockAttempt Result Failure) :
    List Delay → Nat → LockRun (LockRetryError Failure) Result
  | delays, number =>
      let run := runUnderSessionWriteLock number (attempts number)
      match run.ending with
      | .ok value => ⟨run.events, .ok value⟩
      | .error (source, error) =>
          -- one test for the errors of the acquisition, the operation and the release
          if errors.isTransientLockTimeout error then
            match delays with
            | [] => ⟨run.events, .error (.exhausted (exhausted error))⟩
            | _ :: rest =>
                match (attempts number).onRetry with
                | .error error => ⟨run.events, .error (.onRetry error)⟩
                | .ok () =>
                    let later := attemptsFrom errors exhausted attempts rest (number + 1)
                    ⟨run.events ++ later.events, later.ending⟩
          else ⟨run.events, .error (.thrown source error)⟩

variable [ToString Delay]

def exhaustedMessage (errors : LockErrors Failure) (timeoutMs : Delay) (delaysMs : List Delay)
    (lastError : Failure) : String :=
  let listed := "/".intercalate (delaysMs.map toString)
  s!"Could not acquire session write lock after {delaysMs.length + 1} attempts " ++
    s!"({timeoutMs}ms timeout per attempt, {listed}ms delays). " ++
    s!"Last error: {errors.message lastError}"

def withSessionWriteLockRetry (errors : LockErrors Failure) (timeoutMs : Delay)
    (delaysMs : List Delay) (attempts : Nat → LockAttempt Result Failure) :
    LockRun (LockRetryError Failure) Result :=
  attemptsFrom errors (exhaustedMessage errors timeoutMs delaysMs) attempts delaysMs 0

/-! ### An operation that is neither repeated nor lost -/

/-- How a call ends that ends as its operation did. -/
def operationEnding (ended : Except Failure Result) : Except (LockRetryError Failure) Result :=
  ended.mapError (.thrown .operation)

/-- The operation starts at most once, the call ends as the operation did, every lock is
given back, and the lock is reported busy only where nothing started. -/
structure OperationKept (attempts : Nat → LockAttempt Result Failure)
    (run : LockRun (LockRetryError Failure) Result) : Prop where
  once : (run.events.filter fun event => event matches .started _).length ≤ 1
  ending : ∀ number, .started number ∈ run.events →
    run.ending = operationEnding (attempts number).operation
  released : ∀ number, .acquired number ∈ run.events → .released number ∈ run.events
  exhausted : ∀ message, run.ending = .error (.exhausted message) →
    ∀ number, .started number ∉ run.events

/-- The operation does not throw what passes for a busy lock, and the lock is given back. -/
structure EndsCleanly (errors : LockErrors Failure) (attempt : LockAttempt Result Failure) :
    Prop where
  operation : ∀ error, attempt.operation = .error error →
    errors.isTransientLockTimeout error = false
  release : attempt.release = .ok ()

/-- The lock was busy, and the callback let the call go on. -/
def Waits (errors : LockErrors Failure) (attempt : LockAttempt Result Failure) : Prop :=
  (∃ error, attempt.acquisition = .error error ∧ errors.isTransientLockTimeout error = true) ∧
    attempt.onRetry = .ok ()

/-- The first lock that is acquired, if there is one, is held by an operation that ends
cleanly. -/
def FirstEndsCleanly (errors : LockErrors Failure) (attempts : Nat → LockAttempt Result Failure)
    (first retries : Nat) : Prop :=
  ∀ number, first ≤ number → number ≤ first + retries →
    (∀ earlier, first ≤ earlier → earlier < number → Waits errors (attempts earlier)) →
    (attempts number).acquisition = .ok () → EndsCleanly errors (attempts number)

/-! ### One attempt -/

section Attempt

omit [ToString Delay]

variable {errors : LockErrors Failure} {exhausted : Failure → String}
  {attempts : Nat → LockAttempt Result Failure} {attempt : LockAttempt Result Failure}
  {number : Nat} {delays : List Delay}

theorem run_of_refused {error : Failure} (hlock : attempt.acquisition = .error error) :
    runUnderSessionWriteLock number attempt = ⟨[], .error (.acquisition, error)⟩ := by
  rw [runUnderSessionWriteLock, hlock]

theorem run_of_acquired (hlock : attempt.acquisition = .ok ()) :
    .acquired number ∈ (runUnderSessionWriteLock number attempt).events ∧
      .started number ∈ (runUnderSessionWriteLock number attempt).events := by
  rw [runUnderSessionWriteLock, hlock]
  cases attempt.release <;> simp

theorem run_of_released (hlock : attempt.acquisition = .ok ()) (hrelease : attempt.release = .ok ()) :
    runUnderSessionWriteLock number attempt =
      ⟨[.acquired number, .started number] ++
          (if attempt.releasedEarly then [.released number] else []) ++ [.released number],
        attempt.operation.mapError (.operation, ·)⟩ := by
  rw [runUnderSessionWriteLock, hlock, hrelease]

theorem attemptsFrom_ok {value : Result}
    (hending : (runUnderSessionWriteLock number (attempts number)).ending = .ok value) :
    attemptsFrom errors exhausted attempts delays number =
      ⟨(runUnderSessionWriteLock number (attempts number)).events, .ok value⟩ := by
  cases delays <;> rw [attemptsFrom, hending]

theorem attemptsFrom_thrown {source : LockErrorSource} {error : Failure}
    (hending : (runUnderSessionWriteLock number (attempts number)).ending =
      .error (source, error))
    (herror : errors.isTransientLockTimeout error = false) :
    attemptsFrom errors exhausted attempts delays number =
      ⟨(runUnderSessionWriteLock number (attempts number)).events,
        .error (.thrown source error)⟩ := by
  cases delays <;> rw [attemptsFrom] <;>
    simp only [hending, herror, Bool.false_eq_true, if_false]

variable (exhausted delays) in
/-- After what passes for a busy lock the call gives up, the callback throws, or the
next attempt is made. -/
theorem attemptsFrom_transient {source : LockErrorSource} {error : Failure}
    (hending : (runUnderSessionWriteLock number (attempts number)).ending =
      .error (source, error))
    (herror : errors.isTransientLockTimeout error = true) :
    (∃ ending, (ending = .exhausted (exhausted error) ∧ delays = [] ∨
        ∃ thrown, ending = .onRetry thrown ∧ (attempts number).onRetry = .error thrown) ∧
      attemptsFrom errors exhausted attempts delays number =
        ⟨(runUnderSessionWriteLock number (attempts number)).events, .error ending⟩) ∨
    ∃ delay rest, delays = delay :: rest ∧ (attempts number).onRetry = .ok () ∧
      attemptsFrom errors exhausted attempts delays number =
        ⟨(runUnderSessionWriteLock number (attempts number)).events ++
            (attemptsFrom errors exhausted attempts rest (number + 1)).events,
          (attemptsFrom errors exhausted attempts rest (number + 1)).ending⟩ := by
  cases delays with
  | nil =>
      refine .inl ⟨_, .inl ⟨rfl, rfl⟩, ?_⟩
      simp only [attemptsFrom, hending, herror, if_true]
  | cons delay rest =>
      cases hretry : (attempts number).onRetry with
      | error thrown =>
          refine .inl ⟨_, .inr ⟨thrown, rfl, rfl⟩, ?_⟩
          simp only [attemptsFrom, hending, herror, if_true, hretry]
      | ok =>
          refine .inr ⟨delay, rest, rfl, rfl, ?_⟩
          rw [attemptsFrom]
          simp only [hending, herror, if_true, hretry]

theorem mem_attemptsFrom {event : LockEvent}
    (hmem : event ∈ (runUnderSessionWriteLock number (attempts number)).events) :
    event ∈ (attemptsFrom errors exhausted attempts delays number).events := by
  cases hending : (runUnderSessionWriteLock number (attempts number)).ending with
  | ok value =>
      rw [attemptsFrom_ok hending]
      exact hmem
  | error thrown =>
      cases herror : errors.isTransientLockTimeout thrown.2 with
      | false =>
          rw [attemptsFrom_thrown hending herror]
          exact hmem
      | true =>
          obtain ⟨_, -, hrun⟩ | ⟨_, _, -, -, hrun⟩ :=
            attemptsFrom_transient exhausted delays hending herror
          · rw [hrun]
            exact hmem
          · rw [hrun]
            exact List.mem_append_left _ hmem

theorem operationEnding_ne {ended : Except Failure Result} {error : LockRetryError Failure}
    (herror : ∀ failure, error ≠ .thrown .operation failure) :
    .error error ≠ operationEnding ended := by
  cases ended with
  | ok value => exact nofun
  | error failure => exact fun heq => herror failure (Except.error.inj heq)

/-- A call that ends as an operation does has started one, when its retry has. -/
theorem started_of_ending_step {ended : Except Failure Result}
    (hlater : ∀ delay rest, delays = delay :: rest →
      (attemptsFrom errors exhausted attempts rest (number + 1)).ending = operationEnding ended →
      ∃ started, .started started ∈
        (attemptsFrom errors exhausted attempts rest (number + 1)).events)
    (hending : (attemptsFrom errors exhausted attempts delays number).ending =
      operationEnding ended) :
    ∃ started, .started started ∈
      (attemptsFrom errors exhausted attempts delays number).events := by
  cases hlock : (attempts number).acquisition with
  | ok => exact ⟨number, mem_attemptsFrom (run_of_acquired hlock).2⟩
  | error error =>
      have hrefused : (runUnderSessionWriteLock number (attempts number)).ending =
          .error (.acquisition, error) := by
        rw [run_of_refused hlock]
      cases herror : errors.isTransientLockTimeout error with
      | false =>
          rw [attemptsFrom_thrown hrefused herror] at hending
          exact absurd hending (operationEnding_ne nofun)
      | true =>
          obtain ⟨thrown, hthrown, hrun⟩ | ⟨delay, rest, hdelays, -, hrun⟩ :=
            attemptsFrom_transient exhausted delays hrefused herror
          · rw [hrun] at hending
            refine absurd hending (operationEnding_ne ?_)
            rcases hthrown with ⟨rfl, -⟩ | ⟨_, rfl, -⟩ <;> exact nofun
          · rw [hrun] at hending ⊢
            obtain ⟨started, hstarted⟩ := hlater delay rest hdelays hending
            exact ⟨started, List.mem_append_right _ hstarted⟩

theorem started_of_ending {ended : Except Failure Result}
    (hending : (attemptsFrom errors exhausted attempts delays number).ending =
      operationEnding ended) :
    ∃ started, .started started ∈
      (attemptsFrom errors exhausted attempts delays number).events := by
  induction delays generalizing number with
  | nil => exact started_of_ending_step (fun _ _ hdelays => nomatch hdelays) hending
  | cons delay rest ih =>
      apply started_of_ending_step _ hending
      rintro _ _ ⟨rfl, rfl⟩ hlater
      exact ih hlater

/-! ### The first lock that is acquired -/

theorem first_of_acquired {retries : Nat} (hlock : (attempts number).acquisition = .ok ()) :
    FirstEndsCleanly errors attempts number retries ↔ EndsCleanly errors (attempts number) := by
  constructor
  · intro hfirst
    exact hfirst number (Nat.le_refl _) (Nat.le_add_right _ _)
      (fun earlier hle hlt => absurd hlt (Nat.not_lt.2 hle)) hlock
  · intro hclean later hle _ hwaits _
    rcases Nat.eq_or_lt_of_le hle with rfl | hlt
    · exact hclean
    · obtain ⟨⟨error, herror, -⟩, -⟩ := hwaits number (Nat.le_refl _) hlt
      cases hlock.symm.trans herror

theorem first_of_not_waits {retries : Nat} {error : Failure}
    (hlock : (attempts number).acquisition = .error error)
    (hwaits : ¬ Waits errors (attempts number)) :
    FirstEndsCleanly errors attempts number retries := by
  intro later hle _ hearlier hlater
  rcases Nat.eq_or_lt_of_le hle with rfl | hlt
  · cases hlock.symm.trans hlater
  · exact absurd (hearlier number (Nat.le_refl _) hlt) hwaits

theorem first_of_waits {retries : Nat} (hwaits : Waits errors (attempts number)) :
    FirstEndsCleanly errors attempts number (retries + 1) ↔
      FirstEndsCleanly errors attempts (number + 1) retries := by
  constructor
  · intro hfirst later hle hbound hearlier
    refine hfirst later (by omega) (by omega) fun earlier hearly hlt => ?_
    rcases Nat.eq_or_lt_of_le hearly with rfl | hlater
    · exact hwaits
    · exact hearlier earlier hlater hlt
  · intro hfirst later hle hbound hearlier hlock
    rcases Nat.eq_or_lt_of_le hle with rfl | hlt
    · obtain ⟨⟨error, herror, -⟩, -⟩ := hwaits
      cases hlock.symm.trans herror
    · refine hfirst later hlt (by omega) (fun earlier hearly => ?_) hlock
      exact hearlier earlier (Nat.le_of_succ_le hearly)

/-! ### The law -/

/-- Nothing is repeated or lost where nothing starts. -/
theorem kept_of_idle {ending : Except (LockRetryError Failure) Result} :
    OperationKept attempts ⟨[], ending⟩ :=
  ⟨Nat.zero_le _, fun _ hmem => absurd hmem List.not_mem_nil,
    fun _ hmem => absurd hmem List.not_mem_nil, fun _ _ _ => List.not_mem_nil⟩

theorem kept_of_endsCleanly (hlock : (attempts number).acquisition = .ok ())
    (hclean : EndsCleanly errors (attempts number)) :
    OperationKept attempts (attemptsFrom errors exhausted attempts delays number) := by
  have hrun := @run_of_released _ _ (attempts number) number hlock hclean.release
  have hkept : attemptsFrom errors exhausted attempts delays number =
      ⟨(runUnderSessionWriteLock number (attempts number)).events,
        operationEnding (attempts number).operation⟩ := by
    cases hoperation : (attempts number).operation with
    | ok value =>
        refine attemptsFrom_ok ?_
        rw [hrun, hoperation]
        rfl
    | error error =>
        refine attemptsFrom_thrown ?_ (hclean.operation error hoperation)
        rw [hrun, hoperation]
        rfl
  rw [hkept, hrun]
  cases hoperation : (attempts number).operation <;>
    cases (attempts number).releasedEarly <;>
    refine ⟨?_, ?_, ?_, ?_⟩ <;> simp [operationEnding, hoperation, Except.mapError]

/-- After a started operation nothing but its own ending keeps the law. -/
theorem not_kept_of_transient {source : LockErrorSource} {error : Failure}
    (hlock : (attempts number).acquisition = .ok ())
    (hending : (runUnderSessionWriteLock number (attempts number)).ending =
      .error (source, error))
    (herror : errors.isTransientLockTimeout error = true) :
    ¬ OperationKept attempts (attemptsFrom errors exhausted attempts delays number) := by
  intro hkept
  have hstarted := (@run_of_acquired _ _ _ number hlock).2
  have hended := hkept.ending number (mem_attemptsFrom hstarted)
  obtain ⟨thrown, hthrown, hrun⟩ | ⟨delay, rest, -, -, hrun⟩ :=
    attemptsFrom_transient exhausted delays hending herror
  · rw [hrun] at hended
    refine absurd hended (operationEnding_ne ?_)
    rcases hthrown with ⟨rfl, -⟩ | ⟨_, rfl, -⟩ <;> exact nofun
  · rw [hrun] at hended
    obtain ⟨again, hagain⟩ := started_of_ending hended
    have honce := hkept.once
    have hfirst : LockEvent.started number ∈
        (runUnderSessionWriteLock number (attempts number)).events.filter
          (fun event => event matches .started _) := List.mem_filter.2 ⟨hstarted, rfl⟩
    have hsecond : LockEvent.started again ∈
        (attemptsFrom errors exhausted attempts rest (number + 1)).events.filter
          (fun event => event matches .started _) := List.mem_filter.2 ⟨hagain, rfl⟩
    rw [hrun, List.filter_append, List.length_append] at honce
    have hone := List.length_pos_of_mem hfirst
    have htwo := List.length_pos_of_mem hsecond
    omega

theorem endsCleanly_of_kept (hlock : (attempts number).acquisition = .ok ())
    (hkept : OperationKept attempts (attemptsFrom errors exhausted attempts delays number)) :
    EndsCleanly errors (attempts number) := by
  have hended := hkept.ending number (mem_attemptsFrom (run_of_acquired hlock).2)
  cases hrelease : (attempts number).release with
  | error error =>
      have hending : (runUnderSessionWriteLock number (attempts number)).ending =
          .error (.release, error) := by
        rw [runUnderSessionWriteLock, hlock, hrelease]
      cases herror : errors.isTransientLockTimeout error with
      | true => exact absurd hkept (not_kept_of_transient hlock hending herror)
      | false =>
          rw [attemptsFrom_thrown hending herror] at hended
          exact absurd hended (operationEnding_ne nofun)
  | ok =>
      refine ⟨fun error hoperation => ?_, hrelease⟩
      have hending : (runUnderSessionWriteLock number (attempts number)).ending =
          .error (.operation, error) := by
        rw [run_of_released hlock hrelease, hoperation]
        rfl
      apply eq_false_of_ne_true
      exact fun herror => not_kept_of_transient hlock hending herror hkept

theorem kept_iff_step
    (hlater : ∀ delay rest, delays = delay :: rest →
      (OperationKept attempts (attemptsFrom errors exhausted attempts rest (number + 1)) ↔
        FirstEndsCleanly errors attempts (number + 1) rest.length)) :
    OperationKept attempts (attemptsFrom errors exhausted attempts delays number) ↔
      FirstEndsCleanly errors attempts number delays.length := by
  cases hlock : (attempts number).acquisition with
  | ok =>
      rw [first_of_acquired hlock]
      exact ⟨endsCleanly_of_kept hlock, kept_of_endsCleanly hlock⟩
  | error error =>
      have hrefused := @run_of_refused _ _ _ number _ hlock
      have hending : (runUnderSessionWriteLock number (attempts number)).ending =
          .error (.acquisition, error) := by
        rw [hrefused]
      cases herror : errors.isTransientLockTimeout error with
      | false =>
          rw [attemptsFrom_thrown hending herror, hrefused]
          refine iff_of_true kept_of_idle (first_of_not_waits hlock ?_)
          rintro ⟨⟨other, hother, htransient⟩, -⟩
          cases hlock.symm.trans hother
          cases herror.symm.trans htransient
      | true =>
          obtain ⟨thrown, hthrown, hrun⟩ | ⟨delay, rest, rfl, hretry, hrun⟩ :=
            attemptsFrom_transient exhausted delays hending herror
          · rw [hrun, hrefused]
            refine iff_of_true kept_of_idle ?_
            rcases hthrown with ⟨-, rfl⟩ | ⟨other, -, hretry⟩
            · intro later hle hbound _ hlater
              obtain rfl := Nat.le_antisymm hle hbound
              cases hlock.symm.trans hlater
            · refine first_of_not_waits hlock fun hwaits => ?_
              cases hretry.symm.trans hwaits.2
          · have hwaits : Waits errors (attempts number) := ⟨⟨error, hlock, herror⟩, hretry⟩
            rw [hrun, hrefused, List.nil_append, List.length_cons, first_of_waits hwaits]
            exact hlater delay rest rfl

theorem kept_iff_from :
    OperationKept attempts (attemptsFrom errors exhausted attempts delays number) ↔
      FirstEndsCleanly errors attempts number delays.length := by
  induction delays generalizing number with
  | nil => exact kept_iff_step fun _ _ hdelays => nomatch hdelays
  | cons delay rest ih =>
      apply kept_iff_step
      rintro _ _ ⟨rfl, rfl⟩
      exact ih

end Attempt

/-- A call keeps its operation exactly when the first operation that gets the lock does
not throw a lock timeout itself and gives the lock back. -/
theorem withSessionWriteLockRetry_keeps_iff (errors : LockErrors Failure) (timeoutMs : Delay)
    (delaysMs : List Delay) (attempts : Nat → LockAttempt Result Failure) :
    OperationKept attempts (withSessionWriteLockRetry errors timeoutMs delaysMs attempts) ↔
      FirstEndsCleanly errors attempts 0 delaysMs.length :=
  kept_iff_from

/-! ### An operation that meets a busy lock of its own -/

/-- Two errors: a busy lock, and any other. -/
def sampleErrors : LockErrors Bool := ⟨id, fun _ => "busy"⟩

/-- The operation takes effect and then meets another lock that is busy; when it is
started again it goes through. -/
def nestedTimeout (number : Nat) : LockAttempt Nat Bool where
  acquisition := .ok ()
  operation := if number = 0 then .error true else .ok number
  releasedEarly := false
  release := .ok ()
  onRetry := .ok ()

/-- The operation is started twice. -/
theorem nestedTimeout_not_kept :
    ¬ OperationKept nestedTimeout
      (withSessionWriteLockRetry sampleErrors 10000 [100, 200, 400] nestedTimeout) := by
  intro hkept
  exact absurd hkept.once (by decide +kernel)

end GovernedRuntime.Adapters
