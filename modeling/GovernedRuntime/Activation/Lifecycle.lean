/-
The opt-in lifecycle topology (`src/machine/governance-activation.ts`) and the
adjacent-pair validation of a history (`validateHistory` in
`src/adapters/governance-activation.ts`).
-/
import Mathlib.Data.List.Range
import Mathlib.Data.List.Nodup
import Mathlib.Tactic.Tauto
import GovernedRuntime.Activation.Revision

namespace GovernedRuntime.Activation

/-- A refusal of the authority: its reason code and message. -/
structure AuthorityBlocked where
  code : String
  message : String
deriving DecidableEq, Repr

def unavailable (message : String) : AuthorityBlocked :=
  ⟨"GOVERNANCE_AUTHORITY_BLOCKED", message⟩

inductive GovernanceActivationAction where
  | start
  | activate
  | beginEnd
  | finish
  | enroll
deriving DecidableEq, Repr

/-- `governanceActivationTarget`; `finish` is the source's action `end`. -/
def governanceActivationTarget : GovernanceActivationAction → Status
  | .start => .activating
  | .activate => .active
  | .beginEnd => .ending
  | .finish => .inactive
  | .enroll => .active

/-! ### Transition predicates -/

/-- Delegated children carry only the delegation channel; roots never do. -/
def hasCoherentSource (next : GovernanceActivationRevision) : Bool :=
  next.parentDispatch.isSome == (next.decisionSource == .delegation)

/-- One decision keeps one channel and one actor across its revisions. -/
def sameDecision (previous next : GovernanceActivationRevision) : Bool :=
  next.decisionSource == previous.decisionSource &&
    next.decisionActor.actorId == previous.decisionActor.actorId &&
    next.decisionActor.actorEmail == previous.decisionActor.actorEmail &&
    next.decisionActor.actorDisplayName ==
      previous.decisionActor.actorDisplayName &&
    next.decisionActor.actorSource == previous.decisionActor.actorSource &&
    next.decisionActor.actorAssurance == previous.decisionActor.actorAssurance

def sameActivation (previous next : GovernanceActivationRevision) : Bool :=
  next.generation == previous.generation &&
    next.activationId == previous.activationId &&
    next.rootSessionId == previous.rootSessionId &&
    next.directory == previous.directory &&
    next.worktreeRoot == previous.worktreeRoot &&
    next.policyDigest == previous.policyDigest

/-- Start and End decisions each span two revisions under one decision id. -/
def isRootLifecycleStep (previous next : GovernanceActivationRevision) : Bool :=
  match previous.status with
  | .inactive => false
  | .activating =>
      next.status == .active && next.decisionId == previous.decisionId
  | .active =>
      next.status == .ending && next.decisionId != previous.decisionId
  | .ending =>
      next.status == .inactive && next.decisionId == previous.decisionId

def isDelegationContinuation
    (previous next : GovernanceActivationRevision) : Bool :=
  match next.parentDispatch, previous.parentDispatch with
  | some nextCall, some previousCall =>
      sameActivation previous next &&
        previous.status == .active && next.status == .active &&
        previous.sessionId == next.sessionId &&
        next.revision == previous.revision + 1 &&
        previousCall.sessionId == nextCall.sessionId &&
        (previousCall.messageId != nextCall.messageId ||
          previousCall.callId != nextCall.callId) &&
        previous.decisionId == next.decisionId
  | _, _ => false

def isNextRootRevision (previous next : GovernanceActivationRevision) : Bool :=
  previous.sessionId == next.sessionId &&
    next.revision == previous.revision + 1 &&
    previous.parentDispatch.isNone && next.parentDispatch.isNone

def isInitialEnrollment (next : GovernanceActivationRevision) : Bool :=
  if next.revision != 1 || next.previousDigest.isSome then false
  else
    match next.parentDispatch with
    | some call =>
        next.status == .active && next.sessionId != next.rootSessionId &&
          call.sessionId != next.sessionId
    | none =>
        next.sessionId == next.rootSessionId && next.status == .activating &&
          next.generation == 1

def isReactivation (previous next : GovernanceActivationRevision) : Bool :=
  next.status == .activating &&
    next.generation == previous.generation + 1 &&
    next.activationId != previous.activationId &&
    next.rootSessionId == next.sessionId

def isGovernanceActivationTransition :
    Option GovernanceActivationRevision → GovernanceActivationRevision → Bool
  | none, next => hasCoherentSource next && isInitialEnrollment next
  | some previous, next =>
      if !hasCoherentSource next then false
      else if next.decisionId == previous.decisionId && !sameDecision previous next then
        false
      else if previous.parentDispatch.isSome then isDelegationContinuation previous next
      else if !isNextRootRevision previous next then false
      else if previous.status == .inactive then isReactivation previous next
      else sameActivation previous next && isRootLifecycleStep previous next

/-! ### What a transition can do -/

/-- The decision a pair of revisions shares. -/
structure SameDecision (previous next : GovernanceActivationRevision) : Prop where
  decisionId : next.decisionId = previous.decisionId
  decisionSource : next.decisionSource = previous.decisionSource
  decisionActor : next.decisionActor = previous.decisionActor

/-- The activation a pair of revisions shares. -/
structure SameActivation (previous next : GovernanceActivationRevision) : Prop where
  generation : next.generation = previous.generation
  activationId : next.activationId = previous.activationId
  rootSessionId : next.rootSessionId = previous.rootSessionId
  directory : next.directory = previous.directory
  worktreeRoot : next.worktreeRoot = previous.worktreeRoot
  policyDigest : next.policyDigest = previous.policyDigest

/-- The four root steps, one constructor for each status of the predecessor. -/
inductive RootStep (previous next : GovernanceActivationRevision) : Prop where
  | activate (hprevious : previous.status = .activating)
      (hnext : next.status = .active)
      (hactivation : SameActivation previous next)
      (hdecision : SameDecision previous next)
  | beginEnd (hprevious : previous.status = .active)
      (hnext : next.status = .ending)
      (hactivation : SameActivation previous next)
      (hdecision : next.decisionId ≠ previous.decisionId)
  | finish (hprevious : previous.status = .ending)
      (hnext : next.status = .inactive)
      (hactivation : SameActivation previous next)
      (hdecision : SameDecision previous next)
  | restart (hprevious : previous.status = .inactive)
      (hnext : next.status = .activating)
      (hgeneration : next.generation = previous.generation + 1)
      (hactivationId : next.activationId ≠ previous.activationId)
      (hroot : next.rootSessionId = next.sessionId)
      (hdecision : next.decisionId = previous.decisionId →
        SameDecision previous next)

/-- The frame every root step keeps. -/
structure NextRootRevision (previous next : GovernanceActivationRevision) : Prop where
  sessionId : next.sessionId = previous.sessionId
  revision : next.revision = previous.revision + 1
  isRoot : next.parentDispatch = none
  source : next.decisionSource ≠ .delegation

theorem sameDecision_iff (previous next : GovernanceActivationRevision) :
    sameDecision previous next = true ↔
      next.decisionSource = previous.decisionSource ∧
        next.decisionActor = previous.decisionActor := by
  simp [sameDecision, GovernanceDecisionActor.ext_iff, and_assoc]

theorem sameActivation_iff (previous next : GovernanceActivationRevision) :
    sameActivation previous next = true ↔ SameActivation previous next := by
  constructor
  · intro h
    simp only [sameActivation, Bool.and_eq_true, beq_iff_eq, and_assoc] at h
    obtain ⟨hgen, hid, hroot, hdir, htree, hpolicy⟩ := h
    exact ⟨hgen, hid, hroot, hdir, htree, hpolicy⟩
  · rintro ⟨hgen, hid, hroot, hdir, htree, hpolicy⟩
    simp [sameActivation, hgen, hid, hroot, hdir, htree, hpolicy]

theorem hasCoherentSource_of_root {next : GovernanceActivationRevision}
    (hroot : next.parentDispatch = none) :
    hasCoherentSource next = true ↔ next.decisionSource ≠ .delegation := by
  simp [hasCoherentSource, hroot]

theorem isNextRootRevision_iff {previous next : GovernanceActivationRevision}
    (hroot : previous.parentDispatch = none) :
    isNextRootRevision previous next = true ↔
      next.sessionId = previous.sessionId ∧
        next.revision = previous.revision + 1 ∧ next.parentDispatch = none := by
  simp only [isNextRootRevision, hroot, Option.isNone_none, Bool.and_true,
    Bool.and_eq_true, beq_iff_eq, Option.isNone_iff_eq_none, and_assoc]
  rw [eq_comm]

theorem isReactivation_iff (previous next : GovernanceActivationRevision) :
    isReactivation previous next = true ↔
      next.status = .activating ∧
        next.generation = previous.generation + 1 ∧
        next.activationId ≠ previous.activationId ∧
        next.rootSessionId = next.sessionId := by
  simp [isReactivation, and_assoc]

/-- The guards of a transition out of a root revision, in the source's order. -/
theorem isGovernanceActivationTransition_guards
    {previous next : GovernanceActivationRevision}
    (hroot : previous.parentDispatch = none) :
    isGovernanceActivationTransition (some previous) next = true ↔
      hasCoherentSource next = true ∧
        (next.decisionId = previous.decisionId →
          sameDecision previous next = true) ∧
        isNextRootRevision previous next = true ∧
        (if previous.status = .inactive then isReactivation previous next
          else sameActivation previous next &&
            isRootLifecycleStep previous next) = true := by
  simp only [isGovernanceActivationTransition, hroot, Option.isSome_none]
  cases hasCoherentSource next <;> cases isNextRootRevision previous next <;>
    cases sameDecision previous next <;>
      by_cases hid : next.decisionId = previous.decisionId <;> simp [hid]

/-- The inversion of a root transition: the frame and exactly one of the four
lifecycle steps. -/
theorem isGovernanceActivationTransition_root
    {previous next : GovernanceActivationRevision}
    (hroot : previous.parentDispatch = none) :
    isGovernanceActivationTransition (some previous) next = true ↔
      NextRootRevision previous next ∧ RootStep previous next := by
  rw [isGovernanceActivationTransition_guards hroot]
  constructor
  · rintro ⟨hcoherent, hsame, hnext, hstep⟩
    obtain ⟨hsession, hrevision, hnextRoot⟩ := (isNextRootRevision_iff hroot).mp hnext
    have hdecision : next.decisionId = previous.decisionId →
        SameDecision previous next := by
      intro hid
      obtain ⟨hsource, hactor⟩ := (sameDecision_iff previous next).mp (hsame hid)
      exact ⟨hid, hsource, hactor⟩
    refine ⟨⟨hsession, hrevision, hnextRoot,
      (hasCoherentSource_of_root hnextRoot).mp hcoherent⟩, ?_⟩
    cases hstatus : previous.status with
    | inactive =>
        simp only [hstatus, ↓reduceIte] at hstep
        obtain ⟨hnextStatus, hgen, hid, hrootId⟩ :=
          (isReactivation_iff previous next).mp hstep
        exact .restart hstatus hnextStatus hgen hid hrootId hdecision
    | activating =>
        simp [hstatus, isRootLifecycleStep] at hstep
        exact .activate hstatus hstep.2.1
          ((sameActivation_iff previous next).mp hstep.1) (hdecision hstep.2.2)
    | active =>
        simp [hstatus, isRootLifecycleStep] at hstep
        exact .beginEnd hstatus hstep.2.1
          ((sameActivation_iff previous next).mp hstep.1) hstep.2.2
    | ending =>
        simp [hstatus, isRootLifecycleStep] at hstep
        exact .finish hstatus hstep.2.1
          ((sameActivation_iff previous next).mp hstep.1) (hdecision hstep.2.2)
  · rintro ⟨⟨hsession, hrevision, hnextRoot, hsource⟩, hstep⟩
    have hcoherent := (hasCoherentSource_of_root hnextRoot).mpr hsource
    have hnext := (isNextRootRevision_iff hroot).mpr
      ⟨hsession, hrevision, hnextRoot⟩
    have hpair : SameDecision previous next → sameDecision previous next = true :=
      fun h => (sameDecision_iff previous next).mpr
        ⟨h.decisionSource, h.decisionActor⟩
    refine ⟨hcoherent, ?_, hnext, ?_⟩
    · intro hid
      cases hstep with
      | activate _ _ _ hdecision => exact hpair hdecision
      | beginEnd _ _ _ hdecision => exact absurd hid hdecision
      | finish _ _ _ hdecision => exact hpair hdecision
      | restart _ _ _ _ _ hdecision => exact hpair (hdecision hid)
    · cases hstep with
      | activate hprevious hnextStatus hactivation hdecision =>
          simp [hprevious, (sameActivation_iff previous next).mpr hactivation,
            isRootLifecycleStep, hnextStatus, hdecision.decisionId]
      | beginEnd hprevious hnextStatus hactivation hdecision =>
          simp [hprevious, (sameActivation_iff previous next).mpr hactivation,
            isRootLifecycleStep, hnextStatus, hdecision]
      | finish hprevious hnextStatus hactivation hdecision =>
          simp [hprevious, (sameActivation_iff previous next).mpr hactivation,
            isRootLifecycleStep, hnextStatus, hdecision.decisionId]
      | restart hprevious hnextStatus hgeneration hactivationId hrootId _ =>
          simp [hprevious, (isReactivation_iff previous next).mpr
            ⟨hnextStatus, hgeneration, hactivationId, hrootId⟩]

/-- A root enrolls with its first start. -/
theorem isGovernanceActivationTransition_initial
    {next : GovernanceActivationRevision} (hroot : next.parentDispatch = none) :
    isGovernanceActivationTransition none next = true ↔
      next.decisionSource ≠ .delegation ∧ next.revision = 1 ∧
        next.previousDigest = none ∧ next.rootSessionId = next.sessionId ∧
        next.status = .activating ∧ next.generation = 1 := by
  rw [isGovernanceActivationTransition, Bool.and_eq_true,
    hasCoherentSource_of_root hroot, eq_comm (a := next.rootSessionId)]
  simp only [isInitialEnrollment, hroot]
  by_cases hrevision : next.revision = 1 <;>
    by_cases hprevious : next.previousDigest = none <;>
      simp [hrevision, hprevious, and_assoc]

end GovernedRuntime.Activation
