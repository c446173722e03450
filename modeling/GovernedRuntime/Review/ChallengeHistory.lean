/-
The open implementation challenges of a session: what the history of its
implementation reviews leaves open (`src/state/implementation-review-findings.ts`), who
may close a challenge, and that nothing but an independent review does.
-/
import GovernedRuntime.Machine.Topology
import GovernedRuntime.Review.ChallengeConsistency

namespace GovernedRuntime.Review

open GovernedRuntime.Library
open GovernedRuntime.Machine (Phase isCommandAllowed)
open GovernedRuntime.State (LoopVerdict ImplEvidence ValidationAttempt Timestamp)

variable {N : Type}

/-! ### The findings of a review -/

structure ReviewChallenge (N : Type) where
  challengeId : String
  obligationId : String
  kind : ChallengeKind
  scenario : String
  claim : String
  locations : List String
  evidenceRefs : List (Json N)
  outcome : ChallengeOutcome

def ReviewChallenge.structural (challenge : ReviewChallenge N) : Challenge N :=
  { obligationId := some challenge.obligationId
    kind := challenge.kind
    evidenceRefs := some challenge.evidenceRefs
    outcome := some challenge.outcome
    challengeId := some challenge.challengeId
    claim := some challenge.claim
    scenario := some challenge.scenario
    locations := some challenge.locations }

/-- The findings of a reviewer, as far as challenges go. -/
structure ReviewFindings (N : Type) where
  overallVerdict : LoopVerdict
  challenges : List (ReviewChallenge N)
  challengeResolutionVerdicts : Option (List ChallengeResolutionVerdict)

/-- An implementation challenge that failed or could not be verified. -/
def ReviewChallenge.isFailing (challenge : ReviewChallenge N) : Bool :=
  challenge.kind == .implementationChallenge && challenge.outcome.isFailing

/-! ### Projections of the history -/

def failingOrigins (findingsHistory : List (ReviewFindings N)) : List String :=
  (findingsHistory.flatMap fun findings =>
    (findings.challenges.filter (·.isFailing)).map (·.challengeId)).eraseDups

/-- The verdicts of a record that count: who could not review resolves nothing. -/
def ReviewFindings.countedVerdicts (findings : ReviewFindings N) :
    List ChallengeResolutionVerdict :=
  (findings.challengeResolutionVerdicts.getD []).filter fun verdict =>
    findings.overallVerdict != .unableToReview || verdict.verdict != .resolved

def latestVerdict (findingsHistory : List (ReviewFindings N)) (id : String) :
    Option ChallengeResolutionOutcome :=
  verdictOn (findingsHistory.flatMap (·.countedVerdicts)) id

def projectOpenImplementationChallengeIds (findingsHistory : List (ReviewFindings N)) :
    List String :=
  (failingOrigins findingsHistory).filter (latestVerdict findingsHistory · != some .resolved)

structure ChallengeResolution where
  challengeId : String
  implementationDigest : String
  validationAttemptIds : List String
  resolvedAt : Timestamp
deriving DecidableEq, Repr

structure ImplementationChallengeResolutionRequirements where
  targetedResolutionIds : List String
  unaddressedPriorFailIds : List String

/-- The author has recorded a resolution of the challenge for the digest. -/
def resolvedForDigest (challengeResolutions : List ChallengeResolution)
    (implementationDigest : Option String) (id : String) : Bool :=
  challengeResolutions.any fun resolution =>
    some resolution.implementationDigest == implementationDigest && resolution.challengeId == id

def projectImplementationChallengeResolutionRequirements
    (findingsHistory : List (ReviewFindings N)) (challengeResolutions : List ChallengeResolution)
    (implementationDigest : Option String) : ImplementationChallengeResolutionRequirements :=
  let openIds := projectOpenImplementationChallengeIds findingsHistory
  { targetedResolutionIds :=
      openIds.filter (resolvedForDigest challengeResolutions implementationDigest)
    unaddressedPriorFailIds :=
      openIds.filter (!resolvedForDigest challengeResolutions implementationDigest ·) }

theorem mem_failingOrigins {findingsHistory : List (ReviewFindings N)} {id : String} :
    id ∈ failingOrigins findingsHistory ↔
      ∃ findings ∈ findingsHistory, ∃ challenge ∈ findings.challenges,
        challenge.isFailing = true ∧ challenge.challengeId = id := by
  simp only [failingOrigins, List.mem_eraseDups, List.mem_flatMap, List.mem_map,
    List.mem_filter, and_assoc]

theorem mem_projectOpen {findingsHistory : List (ReviewFindings N)} {id : String} :
    id ∈ projectOpenImplementationChallengeIds findingsHistory ↔
      id ∈ failingOrigins findingsHistory ∧
        latestVerdict findingsHistory id ≠ some .resolved := by
  simp only [projectOpenImplementationChallengeIds, List.mem_filter, bne_iff_ne]

theorem mem_failingOrigins_append {findingsHistory : List (ReviewFindings N)}
    {findings : ReviewFindings N} {id : String} :
    id ∈ failingOrigins (findingsHistory ++ [findings]) ↔
      id ∈ failingOrigins findingsHistory ∨
        ∃ challenge ∈ findings.challenges,
          challenge.isFailing = true ∧ challenge.challengeId = id := by
  simp only [mem_failingOrigins, List.mem_append, List.mem_singleton, or_and_right, exists_or,
    exists_eq_left]

theorem verdictOn_append (earlier later : List ChallengeResolutionVerdict) (id : String) :
    verdictOn (earlier ++ later) id = (verdictOn later id).or (verdictOn earlier id) := by
  rw [verdictOn, List.reverse_append, List.find?_append, Option.map_or]
  rfl

/-- A record overrides the verdict of the records before it. -/
theorem latestVerdict_append (findingsHistory : List (ReviewFindings N))
    (findings : ReviewFindings N) (id : String) :
    latestVerdict (findingsHistory ++ [findings]) id =
      (verdictOn findings.countedVerdicts id).or (latestVerdict findingsHistory id) := by
  rw [latestVerdict, List.flatMap_append, verdictOn_append, List.flatMap_singleton]
  rfl

/-! ### The session -/

/-- What of a session its challenges depend on. -/
structure ChallengeSession (N : Type) where
  phase : Phase
  implementation : Option ImplEvidence
  validationAttempts : List ValidationAttempt
  challengeResolutions : List ChallengeResolution
  planFindings : Option (List (ReviewFindings N))
  architectureFindings : Option (List (ReviewFindings N))
  implReviewFindings : List (ReviewFindings N)
  peerReviewFindings : List (ReviewFindings N)

namespace ChallengeSession

variable (s : ChallengeSession N)

def collectPreviouslyUsedChallengeIds : List String :=
  ([s.planFindings.getD [], s.architectureFindings.getD [], s.implReviewFindings,
    s.peerReviewFindings].flatMap fun findingsHistory =>
      findingsHistory.flatMap fun findings => findings.challenges.map (·.challengeId)).eraseDups

def resolutionRequirements : ImplementationChallengeResolutionRequirements :=
  projectImplementationChallengeResolutionRequirements s.implReviewFindings
    s.challengeResolutions (s.implementation.map (·.digest))

def openChallengeIds : List String :=
  projectOpenImplementationChallengeIds s.implReviewFindings

end ChallengeSession

/-- What the obligation of a review fixes for the check of its findings. -/
structure ReviewContract (N : Type) where
  requiredChallengeCount : Nat
  requiredChallengeKind : ChallengeKind
  expectedObligationId : Option String
  allowedEvidenceRefs : Option (List (Json N))

def challengeConsistencyInput (s : ChallengeSession N) (contract : ReviewContract N)
    (findings : ReviewFindings N) : ChallengeConsistencyInput N :=
  { overallVerdict := findings.overallVerdict
    requiredChallengeCount := contract.requiredChallengeCount
    requiredChallengeKind := contract.requiredChallengeKind
    challenges := some (findings.challenges.map (·.structural))
    expectedObligationId := contract.expectedObligationId
    allowedEvidenceRefs := contract.allowedEvidenceRefs
    previouslyUsedChallengeIds := some s.collectPreviouslyUsedChallengeIds
    unresolvedImplementationChallengeIds := some s.resolutionRequirements.targetedResolutionIds
    unaddressedPriorFailIds := some s.resolutionRequirements.unaddressedPriorFailIds
    resolutionVerdicts := findings.challengeResolutionVerdicts }

/-! ### Author resolutions -/

/-- A blocked tool answer: its reason code and variables. -/
structure Blocked where
  code : String
  vars : List (String × String)
deriving DecidableEq, Repr

def ChallengeSession.challengeEverRecorded (s : ChallengeSession N) (challengeId : String) :
    Bool :=
  s.implReviewFindings.any fun findings => findings.challenges.any fun item =>
    item.challengeId == challengeId && item.kind == .implementationChallenge

def checkResolvableChallenge (s : ChallengeSession N)
    (challengeId implementationDigest : String) : Option Blocked :=
  if !s.challengeEverRecorded challengeId then
    some ⟨"IMPLEMENTATION_CHALLENGE_UNKNOWN", [("challengeId", challengeId)]⟩
  else if !s.openChallengeIds.contains challengeId then
    some ⟨"IMPLEMENTATION_CHALLENGE_NOT_FAILED", [("challengeId", challengeId)]⟩
  else if resolvedForDigest s.challengeResolutions (some implementationDigest) challengeId then
    some ⟨"IMPLEMENTATION_CHALLENGE_ALREADY_RESOLVED", [("challengeId", challengeId)]⟩
  else none

/-- An attempt that cannot support a resolution for the digest. -/
def attemptBlock (validationAttempts : List ValidationAttempt) (implementationDigest : String)
    (attemptId : String) : Option Blocked :=
  match validationAttempts.find? (·.attemptId == attemptId) with
  | none => some ⟨"IMPLEMENTATION_VALIDATION_ATTEMPT_UNKNOWN", [("attemptId", attemptId)]⟩
  | some attempt =>
      match attempt.scope with
      | .baseline _ =>
          some ⟨"IMPLEMENTATION_VALIDATION_ATTEMPT_WRONG_SCOPE", [("attemptId", attemptId)]⟩
      | .implementation _ digest =>
          if digest ≠ implementationDigest then
            some ⟨"IMPLEMENTATION_VALIDATION_ATTEMPT_DIGEST_MISMATCH", [("attemptId", attemptId)]⟩
          else if !attempt.result.passed then
            some ⟨"IMPLEMENTATION_VALIDATION_ATTEMPT_FAILED", [("attemptId", attemptId)]⟩
          else none

/-- `resolve_implementation_challenge`: the session with the author's resolution. -/
def resolveImplementationChallenge (s : ChallengeSession N) (challengeId : String)
    (attemptIds : List String) (now : Timestamp) : Except Blocked (ChallengeSession N) :=
  if !isCommandAllowed s.phase .resolveImplementationChallenge then
    .error ⟨"COMMAND_NOT_ALLOWED",
      [("command", "/resolve-implementation-challenge"), ("phase", s.phase.name)]⟩
  else
    match s.implementation with
    | none => .error ⟨"IMPLEMENTATION_EVIDENCE_REQUIRED", []⟩
    | some implementation =>
        match checkResolvableChallenge s challengeId implementation.digest with
        | some blocked => .error blocked
        | none =>
            if ¬attemptIds.Nodup then
              .error ⟨"IMPLEMENTATION_VALIDATION_ATTEMPT_DUPLICATE",
                [("attemptId", "duplicate input")]⟩
            else
              match attemptIds.findSome?
                  (attemptBlock s.validationAttempts implementation.digest) with
              | some blocked => .error blocked
              | none => .ok { s with
                  challengeResolutions := s.challengeResolutions ++
                    [⟨challengeId, implementation.digest, attemptIds, now⟩] }

/-- A resolution is recorded for an open challenge, and leaves it open: the next
reviewer has to judge it. -/
theorem resolveImplementationChallenge_ok {s t : ChallengeSession N} {challengeId : String}
    {attemptIds : List String} {now : Timestamp}
    (hresolve : resolveImplementationChallenge s challengeId attemptIds now = .ok t) :
    challengeId ∈ s.openChallengeIds ∧ t.implReviewFindings = s.implReviewFindings ∧
      challengeId ∈ t.resolutionRequirements.targetedResolutionIds := by
  unfold resolveImplementationChallenge at hresolve
  split at hresolve
  · cases hresolve
  split at hresolve
  · cases hresolve
  rename_i implementation himplementation
  split at hresolve
  · cases hresolve
  rename_i hcheck
  split at hresolve
  · cases hresolve
  split at hresolve
  · cases hresolve
  obtain rfl := Except.ok.inj hresolve
  have hopen : challengeId ∈ s.openChallengeIds := by
    unfold checkResolvableChallenge at hcheck
    split at hcheck
    · cases hcheck
    split at hcheck
    · cases hcheck
    · rename_i hlisted
      simpa using hlisted
  refine ⟨hopen, rfl, List.mem_filter.2 ⟨hopen, ?_⟩⟩
  simp [resolvedForDigest, himplementation]

/-! ### What a recorded review does to the challenges -/

section Recorded

variable {s t : ChallengeSession N} {findings : ReviewFindings N} {id : String}

/-- The challenges of the history, whatever came out of them. -/
def recordedChallengeIds (findingsHistory : List (ReviewFindings N)) : List String :=
  findingsHistory.flatMap fun findings => findings.challenges.map (·.challengeId)

theorem mem_recorded_of_mem_failingOrigins {findingsHistory : List (ReviewFindings N)}
    (hraised : id ∈ failingOrigins findingsHistory) :
    id ∈ recordedChallengeIds findingsHistory := by
  obtain ⟨findings, hmem, challenge, hchallenge, -, rfl⟩ := mem_failingOrigins.1 hraised
  exact List.mem_flatMap.2 ⟨findings, hmem, List.mem_map_of_mem hchallenge⟩

/-- What a recorded review was checked for. -/
structure RecordedReview (s : ChallengeSession N) (findings : ReviewFindings N) : Prop where
  fresh : ∀ challenge ∈ findings.challenges,
    challenge.challengeId ∉ recordedChallengeIds s.implReviewFindings
  settled : findings.overallVerdict = .accept →
    ∀ challenge ∈ findings.challenges, challenge.isFailing = false
  verdicts : CoherentVerdicts findings.overallVerdict
    (findings.challengeResolutionVerdicts.getD [])
    s.resolutionRequirements.targetedResolutionIds
    s.resolutionRequirements.unaddressedPriorFailIds

/-- The findings close the challenge: an independent verdict on a resolution of the
author for the implementation of the moment. -/
structure ClosedByReview (s : ChallengeSession N) (findings : ReviewFindings N)
    (id : String) : Prop where
  reviewed : findings.overallVerdict ≠ .unableToReview
  verdict : ⟨id, .resolved⟩ ∈ findings.challengeResolutionVerdicts.getD []
  resolution : ∃ resolution ∈ s.challengeResolutions, resolution.challengeId = id ∧
    some resolution.implementationDigest = s.implementation.map (·.digest)

theorem mem_collectPreviouslyUsed (hmem : id ∈ recordedChallengeIds s.implReviewFindings) :
    id ∈ s.collectPreviouslyUsedChallengeIds :=
  List.mem_eraseDups.2 (List.mem_flatMap.2 ⟨s.implReviewFindings, by simp, hmem⟩)

theorem mem_openChallengeIds : id ∈ s.openChallengeIds ↔
    id ∈ failingOrigins s.implReviewFindings ∧
      latestVerdict s.implReviewFindings id ≠ some .resolved :=
  mem_projectOpen

theorem openChallengeIds_congr (hsame : t.implReviewFindings = s.implReviewFindings) :
    t.openChallengeIds = s.openChallengeIds :=
  congrArg projectOpenImplementationChallengeIds hsame

/-- A verdict of the record is about a challenge that is open and resolved by the author. -/
theorem RecordedReview.targeted (hrecorded : RecordedReview s findings)
    {verdict : ChallengeResolutionOutcome}
    (hverdict : verdictOn findings.countedVerdicts id = some verdict) :
    id ∈ s.openChallengeIds ∧ resolvedForDigest s.challengeResolutions
      (s.implementation.map (·.digest)) id = true := by
  have hmem := (List.mem_filter.1 (mem_of_verdictOn hverdict)).1
  exact List.mem_filter.1 (hrecorded.verdicts.targeted _ hmem)

/-- A record leaves the verdict on a challenge that is not open. -/
theorem RecordedReview.latestVerdict_eq (hrecorded : RecordedReview s findings)
    (hclosed : id ∉ s.openChallengeIds) :
    latestVerdict (s.implReviewFindings ++ [findings]) id =
      latestVerdict s.implReviewFindings id := by
  rw [latestVerdict_append]
  cases hverdict : verdictOn findings.countedVerdicts id with
  | none => rfl
  | some verdict => exact absurd (hrecorded.targeted hverdict).1 hclosed

/-- The verdicts of the history are about challenges that were raised in it. -/
def VerdictsOnOrigins (findingsHistory : List (ReviewFindings N)) : Prop :=
  ∀ id, latestVerdict findingsHistory id ≠ none → id ∈ failingOrigins findingsHistory

theorem RecordedReview.verdictsOnOrigins (hrecorded : RecordedReview s findings)
    (hinv : VerdictsOnOrigins s.implReviewFindings) :
    VerdictsOnOrigins (s.implReviewFindings ++ [findings]) := by
  intro id hjudged
  refine mem_failingOrigins_append.2 (.inl ?_)
  by_cases hopen : id ∈ s.openChallengeIds
  · exact (mem_openChallengeIds.1 hopen).1
  · rw [hrecorded.latestVerdict_eq hopen] at hjudged
    exact hinv id hjudged

/-- A challenge the record reports failing is open after it. -/
theorem RecordedReview.opens (hrecorded : RecordedReview s findings)
    (hinv : VerdictsOnOrigins s.implReviewFindings) {challenge : ReviewChallenge N}
    (hmem : challenge ∈ findings.challenges) (hfailing : challenge.isFailing = true) :
    challenge.challengeId ∈
      projectOpenImplementationChallengeIds (s.implReviewFindings ++ [findings]) := by
  refine mem_projectOpen.2
    ⟨mem_failingOrigins_append.2 (.inr ⟨challenge, hmem, hfailing, rfl⟩), ?_⟩
  have hfresh : challenge.challengeId ∉ failingOrigins s.implReviewFindings :=
    fun hraised => hrecorded.fresh challenge hmem (mem_recorded_of_mem_failingOrigins hraised)
  rw [hrecorded.latestVerdict_eq fun hopen => hfresh (mem_openChallengeIds.1 hopen).1]
  intro hresolved
  exact hfresh (hinv _ (by rw [hresolved]; exact Option.some_ne_none _))

/-- A challenge of the history that is not open stays closed. -/
theorem RecordedReview.stays_closed (hrecorded : RecordedReview s findings)
    (hknown : id ∈ recordedChallengeIds s.implReviewFindings) (hclosed : id ∉ s.openChallengeIds) :
    id ∉ projectOpenImplementationChallengeIds (s.implReviewFindings ++ [findings]) := by
  intro hopen
  obtain ⟨horigin, hverdict⟩ := mem_projectOpen.1 hopen
  obtain hraised | ⟨challenge, hmem, -, hid⟩ := mem_failingOrigins_append.1 horigin
  · rw [hrecorded.latestVerdict_eq hclosed] at hverdict
    exact hclosed (mem_openChallengeIds.2 ⟨hraised, hverdict⟩)
  · exact hrecorded.fresh challenge hmem (hid ▸ hknown)

/-- A record that leaves an open challenge closed is what closes it. -/
theorem RecordedReview.closes (hrecorded : RecordedReview s findings)
    (hopen : id ∈ s.openChallengeIds)
    (hclosed : id ∉ projectOpenImplementationChallengeIds (s.implReviewFindings ++ [findings])) :
    ClosedByReview s findings id := by
  obtain ⟨hraised, hunresolved⟩ := mem_openChallengeIds.1 hopen
  have hlatest : latestVerdict (s.implReviewFindings ++ [findings]) id = some .resolved := by
    by_contra hnot
    exact hclosed (mem_projectOpen.2 ⟨mem_failingOrigins_append.2 (.inl hraised), hnot⟩)
  rw [latestVerdict_append, Option.or_eq_some_iff] at hlatest
  obtain hverdict | ⟨-, hbefore⟩ := hlatest
  · obtain ⟨hsupplied, hcounted⟩ := List.mem_filter.1 (mem_of_verdictOn hverdict)
    have hresolution := (hrecorded.targeted hverdict).2
    rw [resolvedForDigest, List.any_eq_true] at hresolution
    obtain ⟨resolution, hmem, hmatches⟩ := hresolution
    obtain ⟨hdigest, hid⟩ := Bool.and_eq_true_iff.1 hmatches
    exact ⟨by simpa using hcounted, hsupplied, resolution, hmem, beq_iff_eq.1 hid,
      beq_iff_eq.1 hdigest⟩
  · exact absurd hbefore hunresolved

/-- Nothing is open once a review accepts. -/
theorem RecordedReview.accept (hrecorded : RecordedReview s findings)
    (haccept : findings.overallVerdict = .accept) :
    projectOpenImplementationChallengeIds (s.implReviewFindings ++ [findings]) = [] := by
  refine List.eq_nil_iff_forall_not_mem.2 fun id hopen => ?_
  obtain hraised | ⟨challenge, hmem, hfailing, -⟩ :=
    mem_failingOrigins_append.1 (mem_projectOpen.1 hopen).1
  · by_cases hbefore : id ∈ s.openChallengeIds
    · -- the author addressed it, so the accepting review resolves it
      have htargeted : id ∈ s.resolutionRequirements.targetedResolutionIds := by
        refine List.mem_filter.2 ⟨hbefore, ?_⟩
        by_contra hnot
        have hunaddressed : id ∈ s.resolutionRequirements.unaddressedPriorFailIds :=
          List.mem_filter.2 ⟨hbefore, by simpa using hnot⟩
        rw [hrecorded.verdicts.addressed haccept] at hunaddressed
        exact List.not_mem_nil hunaddressed
      have hcounted : findings.countedVerdicts = findings.challengeResolutionVerdicts.getD [] := by
        refine List.filter_eq_self.2 fun verdict _ => ?_
        rw [haccept]
        rfl
      have hresolved := hrecorded.verdicts.resolved haccept id htargeted
      rw [← hcounted] at hresolved
      refine (mem_projectOpen.1 hopen).2 ?_
      rw [latestVerdict_append, hresolved, Option.some_or]
    · exact hrecorded.stays_closed (mem_recorded_of_mem_failingOrigins hraised) hbefore hopen
  · rw [hrecorded.settled haccept challenge hmem] at hfailing
    cases hfailing

end Recorded

/-! ### Runs -/

inductive ChallengeAction (N : Type) where
  /-- The findings of an implementation review, checked against the session. -/
  | record (contract : ReviewContract N) (findings : ReviewFindings N)
  | resolve (challengeId : String) (attemptIds : List String) (now : Timestamp)
  /-- Any other write: it leaves the findings of the implementation reviews. -/
  | elsewhere (next : ChallengeSession N)

section Runs

variable [JsonNumber N] (toLowerCase : String → String)

def challengeStep (s : ChallengeSession N) : ChallengeAction N → Option (ChallengeSession N)
  | .record contract findings =>
      match validateChallengeConsistency toLowerCase
          (challengeConsistencyInput s contract findings) with
      | none => some { s with implReviewFindings := s.implReviewFindings ++ [findings] }
      | some _ => none
  | .resolve challengeId attemptIds now =>
      (resolveImplementationChallenge s challengeId attemptIds now).toOption
  | .elsewhere next => some { next with implReviewFindings := s.implReviewFindings }

/-- The runs of a session, whoever writes next. -/
abbrev ChallengeRun : ChallengeSession N → ChallengeSession N → Prop :=
  Reaches (challengeStep toLowerCase) fun _ _ => True

variable {toLowerCase} {s t : ChallengeSession N} {contract : ReviewContract N}
  {findings : ReviewFindings N} {id : String}

theorem recordedReview_of_consistent
    (hpass : validateChallengeConsistency toLowerCase
      (challengeConsistencyInput s contract findings) = none) :
    RecordedReview s findings := by
  have hconsistent := validateChallengeConsistency_none toLowerCase hpass
  refine ⟨?_, ?_, hconsistent.verdicts⟩
  · intro challenge hmem hknown
    exact hconsistent.fresh challenge.structural (List.mem_map_of_mem hmem)
      challenge.challengeId rfl (mem_collectPreviouslyUsed hknown)
  · intro haccept challenge hmem
    rw [ReviewChallenge.isFailing, Bool.and_eq_false_iff, or_iff_not_imp_left]
    intro hkind
    have himplementation : challenge.kind = .implementationChallenge := by simpa using hkind
    exact hconsistent.settled haccept challenge.structural (List.mem_map_of_mem hmem)
      himplementation

theorem challengeStep_record
    (hstep : challengeStep toLowerCase s (.record contract findings) = some t) :
    RecordedReview s findings ∧
      t.implReviewFindings = s.implReviewFindings ++ [findings] := by
  rw [challengeStep] at hstep
  split at hstep
  case h_1 hpass =>
    obtain rfl := Option.some_inj.1 hstep
    exact ⟨recordedReview_of_consistent hpass, rfl⟩
  case h_2 => cases hstep

/-- A step keeps the findings or records some. -/
theorem challengeStep_findings {action : ChallengeAction N}
    (hstep : challengeStep toLowerCase s action = some t) :
    t.implReviewFindings = s.implReviewFindings ∨
      ∃ contract findings, action = .record contract findings ∧ RecordedReview s findings ∧
        t.implReviewFindings = s.implReviewFindings ++ [findings] := by
  cases action with
  | record contract findings =>
      exact .inr ⟨contract, findings, rfl, challengeStep_record hstep⟩
  | resolve challengeId attemptIds now =>
      cases hresolve : resolveImplementationChallenge s challengeId attemptIds now with
      | error blocked =>
          rw [challengeStep, hresolve] at hstep
          cases hstep
      | ok next =>
          rw [challengeStep, hresolve] at hstep
          obtain rfl := Option.some_inj.1 hstep
          exact .inl (resolveImplementationChallenge_ok hresolve).2.1
  | elsewhere next =>
      obtain rfl := Option.some_inj.1 hstep
      exact .inl rfl

/-- The verdicts of every history a run builds are about challenges raised in it. -/
theorem ChallengeRun.verdictsOnOrigins (hrun : ChallengeRun toLowerCase s t)
    (hinit : VerdictsOnOrigins s.implReviewFindings) :
    VerdictsOnOrigins t.implReviewFindings := by
  refine @Reaches.invariant _ _ _ _ (fun s => VerdictsOnOrigins s.implReviewFindings)
    (fun {s t action} hinv _ hstep => ?_) _ _ hrun hinit
  obtain hsame | ⟨_, _, -, hrecorded, happended⟩ := challengeStep_findings hstep
  · rw [hsame]
    exact hinv
  · rw [happended]
    exact hrecorded.verdictsOnOrigins hinv

/-- A challenge that is known and closed. -/
def KnownClosed (id : String) (s : ChallengeSession N) : Prop :=
  id ∈ recordedChallengeIds s.implReviewFindings ∧ id ∉ s.openChallengeIds

theorem ChallengeRun.knownClosed (hrun : ChallengeRun toLowerCase s t)
    (hclosed : KnownClosed id s) : KnownClosed id t := by
  refine Reaches.invariant ?_ hrun hclosed
  intro s t action hinv _ hstep
  obtain hsame | ⟨_, _, -, hrecorded, happended⟩ := challengeStep_findings hstep
  · rw [KnownClosed, openChallengeIds_congr hsame, hsame]
    exact hinv
  · rw [KnownClosed, ChallengeSession.openChallengeIds, happended]
    refine ⟨?_, hrecorded.stays_closed hinv.1 hinv.2⟩
    rw [recordedChallengeIds, List.flatMap_append]
    exact List.mem_append_left _ hinv.1

/-- The review at which a challenge that was open in `s` and is not in `t` was closed. -/
def ClosingReview (toLowerCase : String → String) (s t : ChallengeSession N)
    (id : String) : Prop :=
  ∃ before after contract findings, ChallengeRun toLowerCase s before ∧
    id ∈ before.openChallengeIds ∧
    challengeStep toLowerCase before (.record contract findings) = some after ∧
    ChallengeRun toLowerCase after t ∧ ClosedByReview before findings id

theorem ChallengeRun.closing (hrun : ChallengeRun toLowerCase s t)
    (hopen : id ∈ s.openChallengeIds) :
    id ∈ t.openChallengeIds ∨ ClosingReview toLowerCase s t id := by
  induction hrun with
  | refl => exact .inl hopen
  | @tail t u action hreaches _ hstep ih =>
      obtain hstill | ⟨before, after, contract, findings, hbefore, hwas, hrecord, hafter, hby⟩ := ih
      · obtain hsame | ⟨contract, findings, rfl, hrecorded, happended⟩ :=
          challengeStep_findings hstep
        · exact .inl (openChallengeIds_congr hsame ▸ hstill)
        · by_cases hleft : id ∈ u.openChallengeIds
          · exact .inl hleft
          · rw [ChallengeSession.openChallengeIds, happended] at hleft
            exact .inr ⟨t, u, contract, findings, hreaches, hstill, hstep, .refl u,
              hrecorded.closes hstill hleft⟩
      · exact .inr ⟨before, after, contract, findings, hbefore, hwas, hrecord,
          hafter.tail trivial hstep, hby⟩

/-- The lifecycle of implementation challenges over the runs from a session. -/
structure ChallengeLifecycle (toLowerCase : String → String) (start : ChallengeSession N) :
    Prop where
  /-- Nothing is open after a review that accepts. -/
  accept : ∀ {s t contract findings}, ChallengeRun toLowerCase start s →
    challengeStep toLowerCase s (.record contract findings) = some t →
    findings.overallVerdict = .accept → t.openChallengeIds = []
  /-- A challenge reported failing or not verified is open. -/
  opens : ∀ {s t contract findings}, ChallengeRun toLowerCase start s →
    challengeStep toLowerCase s (.record contract findings) = some t →
    ∀ challenge ∈ findings.challenges, challenge.isFailing = true →
      challenge.challengeId ∈ t.openChallengeIds
  /-- It stays open until a review resolves it. -/
  closing : ∀ {s t id}, ChallengeRun toLowerCase start s → ChallengeRun toLowerCase s t →
    id ∈ s.openChallengeIds → id ∈ t.openChallengeIds ∨ ClosingReview toLowerCase s t id
  /-- A known challenge that is not open is never open again. -/
  closed : ∀ {s t id}, ChallengeRun toLowerCase start s → ChallengeRun toLowerCase s t →
    id ∈ recordedChallengeIds s.implReviewFindings → id ∉ s.openChallengeIds →
    id ∉ t.openChallengeIds

/-- Failing implementation challenges are closed by independent reviews only. -/
theorem challenges_closed_by_review (toLowerCase : String → String)
    (start : ChallengeSession N) (hstart : start.implReviewFindings = []) :
    ChallengeLifecycle toLowerCase start := by
  have hinit : VerdictsOnOrigins start.implReviewFindings := by
    rw [hstart]
    exact fun _ hjudged => absurd rfl hjudged
  refine ⟨?_, ?_, fun _ hrun hopen => hrun.closing hopen,
    fun _ hrun hknown hclosed => (hrun.knownClosed ⟨hknown, hclosed⟩).2⟩
  · intro s t contract findings _ hstep haccept
    obtain ⟨hrecorded, happended⟩ := challengeStep_record hstep
    rw [ChallengeSession.openChallengeIds, happended]
    exact hrecorded.accept haccept
  · intro s t contract findings hreaches hstep challenge hmem hfailing
    obtain ⟨hrecorded, happended⟩ := challengeStep_record hstep
    rw [ChallengeSession.openChallengeIds, happended]
    exact hrecorded.opens (hreaches.verdictsOnOrigins hinit) hmem hfailing

end Runs

/-! ### A repair that is reviewed -/

def repairSession : ChallengeSession Nat :=
  { phase := .implReview
    implementation := some
      { implementationId := "impl-2"
        changedFiles := ["src/app.ts"]
        domainFiles := []
        digest := "d2"
        diffDigest := none
        executedAt := "2024-05-01T09:00:00.000Z" }
    validationAttempts :=
      [⟨"attempt-2", .implementation "impl-2" "d2", "",
        { checkId := "lint"
          passed := true
          executedAt := "2024-05-01T10:00:00.000Z"
          kind := .lint
          candidateId := none
          command := "npm run lint"
          exitCode := 0
          outputDigest := ""
          timedOut := false
          outcome := .supported
          assertionExtraction := none
          other := "" }⟩]
    challengeResolutions := []
    planFindings := some []
    architectureFindings := none
    implReviewFindings := []
    peerReviewFindings := [] }

def repairContract : ReviewContract Nat :=
  { requiredChallengeCount := 1
    requiredChallengeKind := .implementationChallenge
    expectedObligationId := some "o1"
    allowedEvidenceRefs := none }

def repairChallenge (challengeId : String) (outcome : ChallengeOutcome) : ReviewChallenge Nat :=
  { challengeId := challengeId
    obligationId := "o1"
    kind := .implementationChallenge
    scenario := "An empty input."
    claim := "It is refused."
    locations := ["src/app.ts"]
    evidenceRefs :=
      [.object [("kind", .string "implementation"), ("implementationDigest", .string "d2")],
        .object [("kind", .string "validation_attempt"), ("attemptId", .string "attempt-2")]]
    outcome := outcome }

def failingReview : ReviewFindings Nat := ⟨.changesRequested, [repairChallenge "c1" .fail], none⟩

def acceptingReview : ReviewFindings Nat :=
  ⟨.accept, [repairChallenge "c2" .pass], some [⟨"c1", .resolved⟩]⟩

theorem challenges_closed_by_review_repaired :
    ∃ s t, ChallengeRun id repairSession s ∧ s.openChallengeIds = ["c1"] ∧
      challengeStep id s (.record repairContract acceptingReview) = some t ∧
      t.openChallengeIds = [] := by
  have hopen : (runSchedule (challengeStep id) repairSession
      [.record repairContract failingReview,
        .resolve "c1" ["attempt-2"] "2024-05-01T11:00:00.000Z"]).map (·.openChallengeIds) =
        some ["c1"] := by
    decide +kernel
  obtain ⟨s, hrun, hids⟩ := Option.map_eq_some_iff.1 hopen
  have haccepted : (runSchedule (challengeStep id) repairSession
      ([.record repairContract failingReview,
        .resolve "c1" ["attempt-2"] "2024-05-01T11:00:00.000Z"] ++
        [.record repairContract acceptingReview])).isSome = true := by
    decide +kernel
  rw [runSchedule_append, hrun, Option.bind_some] at haccepted
  obtain ⟨t, hlast⟩ := Option.isSome_iff_exists.1 haccepted
  obtain ⟨next, hstep, hnext⟩ := Option.bind_eq_some_iff.1 hlast
  have hreaches : ChallengeRun id repairSession s := reaches_of_schedule hrun
  exact ⟨s, next, hreaches, hids, hstep,
    (challenges_closed_by_review id repairSession rfl).accept hreaches hstep rfl⟩

end GovernedRuntime.Review
