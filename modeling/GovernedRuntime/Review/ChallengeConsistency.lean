/-
The coherence of a reviewer's challenges and resolution verdicts
(`src/integration/review/enforcement/challenge-consistency.ts`): counts, kinds, evidence,
distinctness, and what the overall verdict asks of the challenges still open.
-/
import GovernedRuntime.Activation.Revision
import GovernedRuntime.Audit.CanonicalJson
import GovernedRuntime.State.Evidence

namespace GovernedRuntime.Review

open GovernedRuntime.Activation (trim)
open GovernedRuntime.Audit (canonicalJsonStringify)
open GovernedRuntime.Library
open GovernedRuntime.State (LoopVerdict)

variable {N : Type}

/-! ### Challenges and verdicts -/

inductive ChallengeKind
  | designChallenge
  | implementationChallenge
  | contentChallenge
deriving DecidableEq, Repr

def ChallengeKind.name : ChallengeKind → String
  | .designChallenge => "design_challenge"
  | .implementationChallenge => "implementation_challenge"
  | .contentChallenge => "content_challenge"

/-- The outcomes of falsification challenges and of executed ones. -/
inductive ChallengeOutcome
  | supported
  | contradicted
  | pass
  | fail
  | notVerified
deriving DecidableEq, Repr

def ChallengeOutcome.name : ChallengeOutcome → String
  | .supported => "supported"
  | .contradicted => "contradicted"
  | .pass => "pass"
  | .fail => "fail"
  | .notVerified => "not_verified"

inductive ChallengeResolutionOutcome
  | resolved
  | stillFailing
  | notVerified
deriving DecidableEq, Repr

def ChallengeResolutionOutcome.name : ChallengeResolutionOutcome → String
  | .resolved => "resolved"
  | .stillFailing => "still_failing"
  | .notVerified => "not_verified"

structure ChallengeResolutionVerdict where
  challengeId : String
  verdict : ChallengeResolutionOutcome
deriving DecidableEq, Repr

/-- The structural view of a challenge: only the kind is always there. -/
structure Challenge (N : Type) where
  obligationId : Option String
  kind : ChallengeKind
  evidenceRefs : Option (List (Json N))
  outcome : Option ChallengeOutcome
  challengeId : Option String
  claim : Option String
  scenario : Option String
  locations : Option (List String)

structure ChallengeConsistencyInput (N : Type) where
  overallVerdict : LoopVerdict
  requiredChallengeCount : Nat
  requiredChallengeKind : ChallengeKind
  challenges : Option (List (Challenge N))
  expectedObligationId : Option String
  allowedEvidenceRefs : Option (List (Json N))
  /-- Challenge ids already persisted in the session's findings. -/
  previouslyUsedChallengeIds : Option (List String)
  /-- Open challenges with an author resolution for the current digest. -/
  unresolvedImplementationChallengeIds : Option (List String)
  /-- Open challenges without one. -/
  unaddressedPriorFailIds : Option (List String)
  resolutionVerdicts : Option (List ChallengeResolutionVerdict)

inductive ChallengeConsistencyCode
  | challengeContradicted
  | challengeCountIncoherent
  | challengeEvidenceMissing
  | challengeInsubstantial
  | challengeKindIncoherent
  | challengeNotDistinct
  | implementationChallengeUnresolved
  | priorChallengeUnresolved
  | resolutionVerdictDuplicate
  | resolutionVerdictIncoherent
  | resolutionVerdictUnexpected
  | resolutionVerdictUnknown
deriving DecidableEq, Repr

/-- A refusal, with the fields of its `details` in order. -/
structure ChallengeConsistencyFailure (N : Type) where
  code : ChallengeConsistencyCode
  details : List (String × Json N)

/-! ### One challenge -/

/-- A reference that is an object of the given kind. -/
def refersToKind (kind : String) (reference : Json N) : Bool :=
  match reference with
  | .object fields => match fields.lookup "kind" with
    | some (.string text) => text == kind
    | _ => false
  | _ => false

def hasEvidenceReferenceKind (challenge : Challenge N) (kind : String) : Bool :=
  challenge.evidenceRefs.any (·.any (refersToKind kind))

def hasValidationAttemptReference (challenge : Challenge N) : Bool :=
  hasEvidenceReferenceKind challenge "validation_attempt"

def hasImplementationReference (challenge : Challenge N) : Bool :=
  hasEvidenceReferenceKind challenge "implementation"

/-- The refusal of the evidence of a challenge. -/
def evidenceFailure (challenge : Challenge N) (reason : String)
    (more : List (String × Json N)) : ChallengeConsistencyFailure N :=
  ⟨.challengeEvidenceMissing,
    [("kind", .string challenge.kind.name), ("reason", .string reason)] ++ more⟩

def obligationMismatchFailure (input : ChallengeConsistencyInput N) (challenge : Challenge N) :
    Option (ChallengeConsistencyFailure N) :=
  if input.expectedObligationId.isSome && challenge.obligationId != input.expectedObligationId then
    some (evidenceFailure challenge "obligation_mismatch" [])
  else none

def kindIncoherentFailure (input : ChallengeConsistencyInput N) (challenge : Challenge N) :
    Option (ChallengeConsistencyFailure N) :=
  if 0 < input.requiredChallengeCount && challenge.kind != input.requiredChallengeKind then
    some ⟨.challengeKindIncoherent,
      [("required", .string input.requiredChallengeKind.name),
        ("actual", .string challenge.kind.name)]⟩
  else none

def evidenceMissingFailure (challenge : Challenge N) : Option (ChallengeConsistencyFailure N) :=
  if (challenge.evidenceRefs.getD []).isEmpty then
    some (evidenceFailure challenge "evidence_missing" [])
  else none

def evidenceMismatchFailure [JsonNumber N] (challenge : Challenge N)
    (allowedRefs : Option (List String)) : Option (ChallengeConsistencyFailure N) :=
  match allowedRefs, challenge.evidenceRefs with
  | some allowed, some evidenceRefs =>
      if evidenceRefs.any (fun ref => !allowed.contains (canonicalJsonStringify ref)) then
        some (evidenceFailure challenge "evidence_mismatch" [])
      else none
  | _, _ => none

/-- A passing implementation challenge without a reference it needs. -/
def implementationPassFailure (referenced : Challenge N → Bool) (reason required : String)
    (challenge : Challenge N) : Option (ChallengeConsistencyFailure N) :=
  if challenge.kind == .implementationChallenge && challenge.outcome == some .pass &&
      !referenced challenge then
    some (evidenceFailure challenge reason [("required", .string required)])
  else none

def implementationPassEvidenceFailure :
    Challenge N → Option (ChallengeConsistencyFailure N) :=
  implementationPassFailure hasValidationAttemptReference "validation_attempt_missing"
    "validation_attempt"

def implementationPassContentFailure :
    Challenge N → Option (ChallengeConsistencyFailure N) :=
  implementationPassFailure hasImplementationReference "implementation_reference_missing"
    "implementation"

/-- The outcomes that leave an implementation challenge open. -/
def ChallengeOutcome.isFailing (outcome : ChallengeOutcome) : Bool :=
  outcome == .fail || outcome == .notVerified

def implementationUnresolvedFailure (input : ChallengeConsistencyInput N)
    (challenge : Challenge N) : Option (ChallengeConsistencyFailure N) :=
  match challenge.outcome with
  | some outcome =>
      if challenge.kind == .implementationChallenge && input.overallVerdict == .accept &&
          outcome.isFailing then
        some ⟨.implementationChallengeUnresolved, [("outcome", .string outcome.name)]⟩
      else none
  | none => none

def contradictedFailure (input : ChallengeConsistencyInput N) (challenge : Challenge N) :
    Option (ChallengeConsistencyFailure N) :=
  if (challenge.kind == .designChallenge || challenge.kind == .contentChallenge) &&
      input.overallVerdict == .accept && challenge.outcome == some .contradicted then
    some ⟨.challengeContradicted,
      [("kind", .string challenge.kind.name),
        ("outcome", .string ChallengeOutcome.contradicted.name)]⟩
  else none

def validateChallenge [JsonNumber N] (input : ChallengeConsistencyInput N)
    (challenge : Challenge N) (allowedRefs : Option (List String)) :
    Option (ChallengeConsistencyFailure N) :=
  obligationMismatchFailure input challenge <|>
  kindIncoherentFailure input challenge <|>
  evidenceMissingFailure challenge <|>
  evidenceMismatchFailure challenge allowedRefs <|>
  implementationPassEvidenceFailure challenge <|>
  implementationPassContentFailure challenge <|>
  implementationUnresolvedFailure input challenge <|>
  contradictedFailure input challenge

/-- A challenge passes when none of the checks refuses it. -/
theorem validateChallenge_none [JsonNumber N] {input : ChallengeConsistencyInput N}
    {challenge : Challenge N} {allowedRefs : Option (List String)}
    (hpass : validateChallenge input challenge allowedRefs = none) :
    implementationUnresolvedFailure input challenge = none := by
  simp only [validateChallenge, Option.orElse_eq_orElse, Option.orElse_eq_or,
    Option.or_eq_none_iff] at hpass
  exact hpass.2.2.2.2.2.2.1

/-- The first refusal of a list of challenges, with the position it was found at. -/
def firstChallengeFailure [JsonNumber N] (input : ChallengeConsistencyInput N)
    (allowedRefs : Option (List String)) :
    Nat → List (Challenge N) → Option (ChallengeConsistencyFailure N)
  | _, [] => none
  | index, challenge :: rest =>
      match validateChallenge input challenge allowedRefs with
      | some failure =>
          some { failure with
            details := ("challengeIndex", .number (JsonNumber.ofNat index)) :: failure.details }
      | none => firstChallengeFailure input allowedRefs (index + 1) rest

theorem firstChallengeFailure_none [JsonNumber N] {input : ChallengeConsistencyInput N}
    {allowedRefs : Option (List String)} {index : Nat} {challenges : List (Challenge N)}
    (hpass : firstChallengeFailure input allowedRefs index challenges = none) :
    ∀ challenge ∈ challenges, validateChallenge input challenge allowedRefs = none := by
  induction challenges generalizing index with
  | nil => exact fun _ hmem => absurd hmem List.not_mem_nil
  | cons challenge rest ih =>
      rw [firstChallengeFailure] at hpass
      cases hvalid : validateChallenge input challenge allowedRefs with
      | some failure =>
          rw [hvalid] at hpass
          cases hpass
      | none =>
          rw [hvalid] at hpass
          exact List.forall_mem_cons.2 ⟨hvalid, ih hpass⟩

/-! ### Distinctness -/

section Substance

variable (toLowerCase : String → String)

def isBlank (value : Option String) : Bool := value.any fun text => trim text == ""

def firstEmptyRequiredField (challenge : Challenge N) : Option String :=
  if isBlank challenge.claim then some "claim"
  else if isBlank challenge.scenario then some "scenario"
  else
    match challenge.locations with
    | some locations =>
        if locations.isEmpty || locations.any (fun location => trim location == "") then
          some "locations"
        else none
    | none => none

def validateChallengeFloor (challenges : List (Challenge N)) :
    Option (ChallengeConsistencyFailure N) :=
  (challenges.findSome? firstEmptyRequiredField).map fun field =>
    ⟨.challengeInsubstantial, [("reason", .string "empty_field"), ("field", .string field)]⟩

/-- What a challenge says, up to case, order and its identity. -/
def challengeSubstanceSignature [JsonNumber N] (challenge : Challenge N) : String :=
  let normalized (text : String) := toLowerCase (trim text)
  let locations := sortTexts ((challenge.locations.getD []).map normalized)
  let evidence := sortTexts ((challenge.evidenceRefs.getD []).map canonicalJsonStringify)
  canonicalJsonStringify (N := N) (.object
    [("kind", .string challenge.kind.name),
      ("scenario", .string (normalized (challenge.scenario.getD ""))),
      ("claim", .string (normalized (challenge.claim.getD ""))),
      ("locations", .array (locations.map .string)),
      ("evidence", .array (evidence.map .string))])

def notDistinct (reason : String) (challengeId : Option String) :
    ChallengeConsistencyFailure N :=
  ⟨.challengeNotDistinct,
    ("reason", .string reason) ::
      challengeId.toList.map fun id => ("challengeId", .string id)⟩

/-- The first challenge whose id the session has used before. -/
def reusedChallengeFailure (previouslyUsed : List String) (challenges : List (Challenge N)) :
    Option (ChallengeConsistencyFailure N) :=
  (challenges.findSome? fun challenge =>
    challenge.challengeId.filter previouslyUsed.contains).map fun id =>
      notDistinct "historical_challenge_id_reused" (some id)

/-- The first challenge that repeats the id or the substance of an earlier one. -/
def duplicateFailure [JsonNumber N] (seenIds seenSignatures : List String) :
    List (Challenge N) → Option (ChallengeConsistencyFailure N)
  | [] => none
  | challenge :: rest =>
      if challenge.challengeId.any seenIds.contains then
        some (notDistinct "duplicate_challenge_id" challenge.challengeId)
      else
        let signature := challengeSubstanceSignature toLowerCase challenge
        if seenSignatures.contains signature then some (notDistinct "duplicate_substance" none)
        else
          duplicateFailure (challenge.challengeId.toList ++ seenIds) (signature :: seenSignatures)
            rest

def validateChallengeSubstance [JsonNumber N] (challenges : List (Challenge N))
    (previouslyUsedChallengeIds : Option (List String)) :
    Option (ChallengeConsistencyFailure N) :=
  validateChallengeFloor challenges <|>
  reusedChallengeFailure (previouslyUsedChallengeIds.getD []) challenges <|>
  (if challenges.length < 2 then none else duplicateFailure toLowerCase [] [] challenges)

/-- No accepted challenge carries an id of the session's history. -/
theorem validateChallengeSubstance_none [JsonNumber N] {challenges : List (Challenge N)}
    {previouslyUsed : Option (List String)}
    (hpass : validateChallengeSubstance toLowerCase challenges previouslyUsed = none) :
    ∀ challenge ∈ challenges, ∀ id, challenge.challengeId = some id →
      id ∉ previouslyUsed.getD [] := by
  simp only [validateChallengeSubstance, Option.orElse_eq_orElse, Option.orElse_eq_or,
    Option.or_eq_none_iff, reusedChallengeFailure, Option.map_eq_none_iff,
    List.findSome?_eq_none_iff] at hpass
  intro challenge hmem id hid hused
  have hfresh := hpass.2.1 challenge hmem
  rw [hid, Option.filter_eq_none_iff] at hfresh
  exact hfresh id rfl (List.contains_iff_mem.2 hused)

end Substance

/-! ### Resolution verdicts -/

/-- The refusal of a resolution verdict, naming its challenge. -/
def verdictFailure (code : ChallengeConsistencyCode) (challengeId : String)
    (more : List (String × Json N)) : ChallengeConsistencyFailure N :=
  ⟨code, ("challengeId", .string challengeId) :: more⟩

/-- Every verdict refers to one of the open challenges, and no two to the same. -/
def validateSuppliedVerdictShape (openIds seen : List String) :
    List ChallengeResolutionVerdict → Option (ChallengeConsistencyFailure N)
  | [] => none
  | item :: rest =>
      if seen.contains item.challengeId then
        some (verdictFailure .resolutionVerdictDuplicate item.challengeId [])
      else if !openIds.contains item.challengeId then
        some (verdictFailure .resolutionVerdictUnknown item.challengeId [])
      else validateSuppliedVerdictShape openIds (item.challengeId :: seen) rest

def validatePriorFailureGate [JsonNumber N] (input : ChallengeConsistencyInput N) :
    Option (ChallengeConsistencyFailure N) :=
  let unaddressed := input.unaddressedPriorFailIds.getD []
  if input.overallVerdict = .accept ∧ 0 < unaddressed.length then
    some ⟨.priorChallengeUnresolved,
      [("unaddressed", .number (JsonNumber.ofNat unaddressed.length)),
        ("challengeId", .string (unaddressed.head?.getD ""))]⟩
  else none

def validateUnableToReviewVerdicts (supplied : List ChallengeResolutionVerdict) :
    Option (ChallengeConsistencyFailure N) :=
  (supplied.find? (·.verdict != .notVerified)).map fun incoherent =>
    verdictFailure .resolutionVerdictIncoherent incoherent.challengeId
      [("overallVerdict", .string "unable_to_review"),
        ("verdict", .string incoherent.verdict.name)]

/-- The verdict a later entry of the same challenge overwrites. -/
def verdictOn (supplied : List ChallengeResolutionVerdict) (id : String) :
    Option ChallengeResolutionOutcome :=
  (supplied.reverse.find? (·.challengeId == id)).map (·.verdict)

/-- An open challenge without a verdict, or accepted without being resolved. -/
def openChallengeFailure (overallVerdict : LoopVerdict)
    (supplied : List ChallengeResolutionVerdict) (id : String) :
    Option (ChallengeConsistencyFailure N) :=
  match verdictOn supplied id with
  | none => some (verdictFailure .implementationChallengeUnresolved id
      [("reason", .string "no resolution verdict")])
  | some verdict =>
      if overallVerdict = .accept ∧ verdict ≠ .resolved then
        some (verdictFailure .implementationChallengeUnresolved id
          [("verdict", .string verdict.name)])
      else none

def validateResolutionVerdicts [JsonNumber N] (input : ChallengeConsistencyInput N) :
    Option (ChallengeConsistencyFailure N) :=
  let openIds := (input.unresolvedImplementationChallengeIds.getD []).eraseDups
  let supplied := input.resolutionVerdicts.getD []
  validatePriorFailureGate input <|>
  if openIds.isEmpty then
    if 0 < supplied.length then
      some ⟨.resolutionVerdictUnexpected,
        [("supplied", .number (JsonNumber.ofNat supplied.length))]⟩
    else none
  else
    validateSuppliedVerdictShape openIds [] supplied <|>
    if input.overallVerdict = .unableToReview then validateUnableToReviewVerdicts supplied
    else openIds.findSome? (openChallengeFailure input.overallVerdict supplied)

theorem validateSuppliedVerdictShape_none {openIds seen : List String}
    {supplied : List ChallengeResolutionVerdict}
    (hpass : validateSuppliedVerdictShape (N := N) openIds seen supplied = none) :
    ∀ item ∈ supplied, item.challengeId ∈ openIds := by
  induction supplied generalizing seen with
  | nil => exact fun _ hmem => absurd hmem List.not_mem_nil
  | cons item rest ih =>
      rw [validateSuppliedVerdictShape] at hpass
      split at hpass
      · cases hpass
      split at hpass
      · cases hpass
      · rename_i hknown
        exact List.forall_mem_cons.2 ⟨by simpa using hknown, ih hpass⟩

theorem mem_of_verdictOn {supplied : List ChallengeResolutionVerdict} {id : String}
    {verdict : ChallengeResolutionOutcome} (hverdict : verdictOn supplied id = some verdict) :
    ⟨id, verdict⟩ ∈ supplied := by
  obtain ⟨item, hfound, hitem⟩ := Option.map_eq_some_iff.1 hverdict
  have hmem := List.mem_reverse.1 (List.mem_of_find?_eq_some hfound)
  have hid : item.challengeId = id := by
    simpa using List.find?_some hfound
  rw [← hid, ← hitem]
  exact hmem

/-- What the verdicts of accepted findings are, for the sets they were checked against. -/
structure CoherentVerdicts (overallVerdict : LoopVerdict)
    (supplied : List ChallengeResolutionVerdict) (openIds unaddressed : List String) :
    Prop where
  addressed : overallVerdict = .accept → unaddressed = []
  targeted : ∀ item ∈ supplied, item.challengeId ∈ openIds
  resolved : overallVerdict = .accept → ∀ id ∈ openIds, verdictOn supplied id = some .resolved
  unable : overallVerdict = .unableToReview → ∀ item ∈ supplied, item.verdict = .notVerified

theorem validateResolutionVerdicts_none [JsonNumber N] {input : ChallengeConsistencyInput N}
    (hpass : validateResolutionVerdicts input = none) :
    CoherentVerdicts input.overallVerdict (input.resolutionVerdicts.getD [])
      (input.unresolvedImplementationChallengeIds.getD [])
      (input.unaddressedPriorFailIds.getD []) := by
  simp only [validateResolutionVerdicts, Option.orElse_eq_orElse, Option.orElse_eq_or,
    Option.or_eq_none_iff] at hpass
  obtain ⟨hgate, hverdicts⟩ := hpass
  have haddressed : input.overallVerdict = .accept →
      input.unaddressedPriorFailIds.getD [] = [] := by
    intro haccept
    simp only [validatePriorFailureGate, haccept, true_and, ite_eq_right_iff, reduceCtorEq,
      imp_false, Nat.not_lt, Nat.le_zero, List.length_eq_zero_iff] at hgate
    exact hgate
  split at hverdicts
  case isTrue hnone =>
    -- no open challenge: no verdict either
    have hempty : input.unresolvedImplementationChallengeIds.getD [] = [] := by
      refine List.eq_nil_iff_forall_not_mem.2 fun id hopen => ?_
      have hmem := List.mem_eraseDups.2 hopen
      rw [List.isEmpty_iff.1 hnone] at hmem
      exact List.not_mem_nil hmem
    have hsupplied : input.resolutionVerdicts.getD [] = [] := by
      simpa using hverdicts
    rw [hempty, hsupplied]
    exact ⟨haddressed, fun _ hmem => absurd hmem List.not_mem_nil,
      fun _ _ hmem => absurd hmem List.not_mem_nil,
      fun _ _ hmem => absurd hmem List.not_mem_nil⟩
  case isFalse hsome =>
    rw [Option.or_eq_none_iff] at hverdicts
    obtain ⟨hshape, hjudged⟩ := hverdicts
    refine ⟨haddressed, fun item hmem =>
      List.mem_eraseDups.1 (validateSuppliedVerdictShape_none hshape item hmem), ?_, ?_⟩
    · intro haccept id hopen
      rw [if_neg (by rw [haccept]; decide), List.findSome?_eq_none_iff] at hjudged
      have hresolved := hjudged id (List.mem_eraseDups.2 hopen)
      rw [openChallengeFailure] at hresolved
      cases hverdict : verdictOn (input.resolutionVerdicts.getD []) id with
      | none => simp [hverdict] at hresolved
      | some verdict => simpa [hverdict, haccept] using hresolved
    · intro hunable item hmem
      rw [if_pos hunable, validateUnableToReviewVerdicts, Option.map_eq_none_iff,
        List.find?_eq_none] at hjudged
      simpa using hjudged item hmem

/-! ### The whole check -/

section Consistency

variable [JsonNumber N] (toLowerCase : String → String)

def validateChallengeCountFlexible (input : ChallengeConsistencyInput N)
    (challenges : List (Challenge N)) : Option (ChallengeConsistencyFailure N) :=
  validateChallengeSubstance toLowerCase challenges input.previouslyUsedChallengeIds <|>
  firstChallengeFailure input (input.allowedEvidenceRefs.map (·.map canonicalJsonStringify)) 0
    challenges <|>
  validateResolutionVerdicts input

/-- The refusal of a reviewer's findings, if they are refused: an answer that no
assessment was possible may leave challenges out. -/
def validateChallengeConsistency (input : ChallengeConsistencyInput N) :
    Option (ChallengeConsistencyFailure N) :=
  let challenges := input.challenges.getD []
  if input.overallVerdict ≠ .unableToReview ∧
      challenges.length ≠ input.requiredChallengeCount then
    some ⟨.challengeCountIncoherent,
      [("required", .number (JsonNumber.ofNat input.requiredChallengeCount)),
        ("actual", .number (JsonNumber.ofNat challenges.length))]⟩
  else validateChallengeCountFlexible toLowerCase input challenges

/-- What is known of findings the check accepts. -/
structure ConsistentFindings (input : ChallengeConsistencyInput N) : Prop where
  fresh : ∀ challenge ∈ input.challenges.getD [], ∀ id, challenge.challengeId = some id →
    id ∉ input.previouslyUsedChallengeIds.getD []
  settled : input.overallVerdict = .accept → ∀ challenge ∈ input.challenges.getD [],
    challenge.kind = .implementationChallenge → challenge.outcome.any (·.isFailing) = false
  verdicts : CoherentVerdicts input.overallVerdict (input.resolutionVerdicts.getD [])
    (input.unresolvedImplementationChallengeIds.getD [])
    (input.unaddressedPriorFailIds.getD [])

theorem validateChallengeConsistency_none {input : ChallengeConsistencyInput N}
    (hpass : validateChallengeConsistency toLowerCase input = none) :
    ConsistentFindings input := by
  rw [validateChallengeConsistency] at hpass
  split at hpass
  · cases hpass
  simp only [validateChallengeCountFlexible, Option.orElse_eq_orElse, Option.orElse_eq_or,
    Option.or_eq_none_iff] at hpass
  obtain ⟨hsubstance, hchallenges, hverdicts⟩ := hpass
  refine ⟨?_, ?_, validateResolutionVerdicts_none hverdicts⟩
  · intro challenge hmem id hid
    exact validateChallengeSubstance_none toLowerCase hsubstance challenge hmem id hid
  · intro haccept challenge hmem hkind
    have hunresolved := validateChallenge_none
      (firstChallengeFailure_none hchallenges challenge hmem)
    rw [implementationUnresolvedFailure] at hunresolved
    cases houtcome : challenge.outcome with
    | none => rfl
    | some outcome => simpa [houtcome, hkind, haccept] using hunresolved

end Consistency

end GovernedRuntime.Review
