/-
Verification of an audit trail (`src/audit/integrity.ts`,
`src/audit/timestamp-verification.ts`).
-/
import GovernedRuntime.Audit.Event

namespace GovernedRuntime.Audit

open GovernedRuntime.Library GovernedRuntime.State

variable {N : Type} [JsonNumber N]

inductive ChainVerificationReason
  | chainBreak
  | auditEnvelopeInvalid
  | clockAnomaly
  | timestampEvidenceMissing
  | tsaMessageImprintMismatch
  | tokenVerificationRequired
  | tsaEvidenceDowngraded
deriving DecidableEq, Repr

structure EventVerification where
  index : Nat
  eventId : String
  valid : Bool
  reason : Option String
  reasonCode : Option ChainVerificationReason
  expectedChainHash : Option String
  actualChainHash : Option String
deriving DecidableEq, Repr

structure ChainVerifyOptions where
  strictTimestamps : Bool
  expectedFlowguardSessionId : Option String
deriving DecidableEq, Repr

/-! ### Single events -/

def sequenceText (sequence : Option Nat) : String := sequence.elim "undefined" toString

/-- `verifyEvent`: the checks in their order. -/
def verifyEvent (hashText : String → String) (event : Json N) (expectedPrevHash : String)
    (index : Nat) : EventVerification :=
  let eventId := textOf event "id"
  let prevHash := textOf event "prevHash"
  let chainHash := textOf event "chainHash"
  let recomputed := computeChainHash hashText prevHash (event.without ["chainHash"])
  let semanticEventDigest := textOf event "semanticEventDigest"
  let recomputedSemanticDigest := computeCanonicalEventDigest hashText event
  if textOf event "auditFormatVersion" != currentAuditFormatVersion then
    ⟨index, eventId, false,
      some ("record violates the canonical audit-chain.v3 event envelope: " ++
        "auditFormatVersion \"" ++ textOf event "auditFormatVersion" ++ "\""),
      some .auditEnvelopeInvalid, none, none⟩
  else if prevHash != expectedPrevHash then
    ⟨index, eventId, false,
      some ("prevHash mismatch: expected \"" ++ expectedPrevHash ++ "\", got \"" ++
        prevHash ++ "\""),
      some .chainBreak, none, none⟩
  else if recomputed != chainHash then
    ⟨index, eventId, false,
      some ("chainHash mismatch: expected \"" ++ recomputed ++ "\", got \"" ++ chainHash ++
        "\" (event data may have been modified)"),
      some .chainBreak, some recomputed, some chainHash⟩
  else if sequenceOf event != some (index + 1) then
    ⟨index, eventId, false,
      some ("auditSequence mismatch: expected " ++ toString (index + 1) ++ ", got " ++
        sequenceText (sequenceOf event)),
      some .chainBreak, none, none⟩
  else if recomputedSemanticDigest != semanticEventDigest then
    ⟨index, eventId, false,
      some ("semanticEventDigest mismatch: expected \"" ++ recomputedSemanticDigest ++
        "\", got \"" ++ semanticEventDigest ++ "\""),
      some .chainBreak, some recomputedSemanticDigest, some semanticEventDigest⟩
  else ⟨index, eventId, true, none, none, none, none⟩

/-! ### Timestamps -/

structure TimestampMonotonicityResult where
  valid : Bool
  firstBreak : Option Nat
  message : Option String
deriving DecidableEq, Repr

/-- The walk of `verifyTimestampMonotonicity` from one event on. -/
def monotonicityFrom (i : Nat) (previous : Option (Int × String)) :
    List (Json N) → TimestampMonotonicityResult
  | [] => ⟨true, none, none⟩
  | event :: rest =>
      let recordedAt := textOf event "recordedAt"
      let occurredAt := textOf event "occurredAt"
      match dateParse recordedAt, dateParse occurredAt with
      | none, _ =>
          ⟨false, some i, some ("Record timestamp at index " ++ toString i ++
            " is not a parseable UTC instant: \"" ++ recordedAt ++ "\"")⟩
      | some _, none =>
          ⟨false, some i, some ("Occurrence timestamp at index " ++ toString i ++
            " is not a parseable UTC instant: \"" ++ occurredAt ++ "\"")⟩
      | some recorded, some occurred =>
          if recorded < occurred then
            ⟨false, some i, some ("Occurrence timestamp at index " ++ toString i ++
              " postdates its record timestamp: \"" ++ occurredAt ++ "\" > \"" ++
              recordedAt ++ "\"")⟩
          else
            match previous with
            | some (previousRecorded, previousText) =>
                if recorded < previousRecorded then
                  ⟨false, some i, some ("Record timestamp non-monotonic at index " ++
                    toString i ++ ": \"" ++ recordedAt ++ "\" < \"" ++ previousText ++
                    "\"")⟩
                else monotonicityFrom (i + 1) (some (recorded, recordedAt)) rest
            | none => monotonicityFrom (i + 1) (some (recorded, recordedAt)) rest

def verifyTimestampMonotonicity (events : List (Json N)) : TimestampMonotonicityResult :=
  monotonicityFrom 0 none events

structure TimestampEvidenceCheck where
  valid : Bool
  reason : Option String
  needsTokenVerification : Bool
  downgraded : Bool
deriving DecidableEq, Repr

def isDegradedStatus (status : Option String) : Bool :=
  status == some "local" || status == some "ntp_checked" || status == some "tsa_failed"

/-- `verifyTsaMessageImprint`. -/
def verifyTsaMessageImprint (hashText : String → String) (event : Json N) :
    TimestampEvidenceCheck :=
  match event.get? "timestampEvidence" with
  | none => ⟨true, none, false, false⟩
  | some evidence =>
      match evidence.get? "tsa" with
      | none => ⟨true, none, false, false⟩
      | some tsa =>
          let status := fieldText evidence "status"
          let imprint := fieldText tsa "messageImprint"
          let tokenDerBase64 := fieldText tsa "tokenDerBase64"
          if (tokenDerBase64.isSome || imprint.isSome) && isDegradedStatus status then
            ⟨false, some ("TSA evidence present but status downgraded to " ++
              status.getD "undefined" ++
              " — a degraded status must never weaken timestamp assurance"), false, true⟩
          else if (truthy tokenDerBase64).isSome then
            ⟨false, some ("TSA token verification required — cannot trust mutable cached " ++
              "messageImprint"), true, false⟩
          else
            match truthy imprint with
            | none => ⟨false, some "TSA evidence missing messageImprint", false, false⟩
            | some imprint =>
                let recomputedDigest := computeCanonicalEventDigest hashText event
                if (truthy (fieldText event "semanticEventDigest")).any
                    (· != recomputedDigest) then
                  ⟨false, some ("stored semanticEventDigest does not match recomputed " ++
                    "canonical event digest"), false, false⟩
                else if imprint != recomputedDigest then
                  ⟨false, some ("TSA messageImprint does not match recomputed canonical " ++
                    "event digest"), false, false⟩
                else ⟨true, none, false, false⟩

def eventKinds : List String := ["decision", "lifecycle", "transition", "tool_call", "error"]

def extractEventKind (eventString : String) : String :=
  (eventKinds.find? fun kind => (kind ++ ":").toList.isPrefixOf eventString.toList).getD
    eventString

/-- Whether `verifyTimestampEvidencePresence` counts the event as missing. -/
def missesCriticalEvidence (criticalKinds : List String) (event : Json N) : Bool :=
  criticalKinds.contains (extractEventKind (textOf event "event")) &&
    match event.get? "timestampEvidence" with
    | none => true
    | some evidence =>
        fieldText evidence "status" == some "local" ||
          fieldText evidence "status" == some "tsa_failed"

/-! ### The trail -/

structure FirstVerificationFailures where
  firstBreak : Option EventVerification
  firstChainBreak : Option EventVerification
  firstEnvelopeInvalid : Option EventVerification
deriving DecidableEq, Repr

/-- `trackVerificationFailure`: the first of each kind stays. -/
def FirstVerificationFailures.track (failures : FirstVerificationFailures)
    (verification : EventVerification) : FirstVerificationFailures :=
  if verification.valid then failures
  else
    { firstBreak := failures.firstBreak.or (some verification)
      firstChainBreak :=
        if verification.reasonCode = some .chainBreak then
          failures.firstChainBreak.or (some verification)
        else failures.firstChainBreak
      firstEnvelopeInvalid :=
        if verification.reasonCode = some .auditEnvelopeInvalid then
          failures.firstEnvelopeInvalid.or (some verification)
        else failures.firstEnvelopeInvalid }

/-- What `verifyChain` carries from one record to the next. -/
structure ChainWalk (N : Type) where
  results : List EventVerification
  failures : FirstVerificationFailures
  canonicalEvents : List (Nat × Json N)
  lastHash : String
  trailFlowguardSessionId : Option String

def ChainWalk.initial (options : ChainVerifyOptions) : ChainWalk N :=
  ⟨[], ⟨none, none, none⟩, [], genesisHash, options.expectedFlowguardSessionId⟩

/-- The session a trail belongs to: the expected one, or that of its first event. -/
def trailSession (walk : Option String) (event : Json N) : String :=
  (truthy walk).getD (textOf event "flowguardSessionId")

def sessionVerification (session : String) (event : Json N) (index : Nat)
    (verification : EventVerification) : EventVerification :=
  if textOf event "flowguardSessionId" = session then verification
  else
    ⟨index, textOf event "id", false,
      some ("flowguardSessionId mismatch: expected \"" ++ session ++ "\", got \"" ++
        textOf event "flowguardSessionId" ++ "\""),
      some .chainBreak, none, none⟩

def ChainWalk.record (walk : ChainWalk N) (hashText : String → String) (index : Nat)
    (raw : Json N) : ChainWalk N :=
  match safeParse raw with
  | none =>
      let verification : EventVerification :=
        ⟨index, (fieldText raw "id").getD "unknown", false,
          some "record violates the canonical audit-chain.v3 event envelope",
          some .auditEnvelopeInvalid, none, none⟩
      { walk with
        results := walk.results ++ [verification]
        failures := walk.failures.track verification }
  | some event =>
      let session := trailSession walk.trailFlowguardSessionId event
      let verification := sessionVerification session event index
        (verifyEvent hashText event walk.lastHash index)
      { results := walk.results ++ [verification]
        failures := walk.failures.track verification
        canonicalEvents := walk.canonicalEvents ++ [(index, event)]
        lastHash := textOf event "chainHash"
        trailFlowguardSessionId := some session }

def ChainWalk.records (hashText : String → String) (index : Nat) (walk : ChainWalk N) :
    List (Json N) → ChainWalk N
  | [] => walk
  | raw :: rest => ChainWalk.records hashText (index + 1) (walk.record hashText index raw) rest

structure TimestampChecks where
  timestampMonotonicity : TimestampMonotonicityResult
  missingTimestampEvidence : List Nat
  tsaImprintMismatches : List Nat
  tokenVerificationRequired : List Nat
  tsaEvidenceDowngraded : List Nat
deriving DecidableEq, Repr

def verifyTimestampChecks (hashText : String → String) (indexedEvents : List (Nat × Json N))
    (strictTimestamps : Bool) : TimestampChecks :=
  let monotonicity := verifyTimestampMonotonicity (indexedEvents.map Prod.snd)
  let timestampMonotonicity : TimestampMonotonicityResult :=
    { monotonicity with
      firstBreak := monotonicity.firstBreak.bind fun position =>
        (indexedEvents[position]?).map Prod.fst }
  if !strictTimestamps then ⟨timestampMonotonicity, [], [], [], []⟩
  else
    let failing := indexedEvents.filterMap fun entry =>
      let check := verifyTsaMessageImprint hashText entry.2
      if check.valid then none else some (entry.1, check)
    let missing := indexedEvents.filter fun entry =>
      missesCriticalEvidence ["decision", "lifecycle"] entry.2
    { timestampMonotonicity
      missingTimestampEvidence := missing.map Prod.fst
      tsaImprintMismatches :=
        (failing.filter fun entry =>
          !entry.2.downgraded && !entry.2.needsTokenVerification).map Prod.fst
      tokenVerificationRequired :=
        (failing.filter fun entry =>
          !entry.2.downgraded && entry.2.needsTokenVerification).map Prod.fst
      tsaEvidenceDowngraded := (failing.filter (·.2.downgraded)).map Prod.fst }

def resolveStructuralChainReason (failures : FirstVerificationFailures) :
    Option ChainVerificationReason :=
  if failures.firstChainBreak.isSome then some .chainBreak
  else if failures.firstEnvelopeInvalid.isSome then some .auditEnvelopeInvalid
  else none

def resolveTimestampReason (checks : TimestampChecks) : Option ChainVerificationReason :=
  if !checks.timestampMonotonicity.valid then some .clockAnomaly
  else if checks.tsaEvidenceDowngraded != [] then some .tsaEvidenceDowngraded
  else if checks.tsaImprintMismatches != [] then some .tsaMessageImprintMismatch
  else if checks.missingTimestampEvidence != [] then some .timestampEvidenceMissing
  else if checks.tokenVerificationRequired != [] then some .tokenVerificationRequired
  else none

def resolveChainReason (failures : FirstVerificationFailures) (strictTimestamps : Bool)
    (checks : TimestampChecks) : Option ChainVerificationReason :=
  match resolveStructuralChainReason failures with
  | some reason => some reason
  | none =>
      if !checks.timestampMonotonicity.valid then some .clockAnomaly
      else if !strictTimestamps then none
      else resolveTimestampReason checks

structure ChainVerification where
  valid : Bool
  totalEvents : Nat
  verifiedCount : Nat
  firstBreak : Option EventVerification
  results : List EventVerification
  reason : Option ChainVerificationReason
  timestampChecks : TimestampChecks
deriving DecidableEq, Repr

def verifyChain (hashText : String → String) (events : List (Json N))
    (options : ChainVerifyOptions) : ChainVerification :=
  let walk := ChainWalk.records hashText 0 (.initial options) events
  let timestampChecks :=
    verifyTimestampChecks hashText walk.canonicalEvents options.strictTimestamps
  let reason := resolveChainReason walk.failures options.strictTimestamps timestampChecks
  { valid := reason.isNone
    totalEvents := events.length
    verifiedCount := walk.results.length
    firstBreak := walk.failures.firstBreak
    results := walk.results
    reason
    timestampChecks }

def isChainedEvent (event : Json N) : Bool :=
  (truthy (fieldText event "chainHash")).isSome &&
    (truthy (fieldText event "prevHash")).isSome

/-- The chain hash of the last chained event. -/
def getLastChainHash (events : List (Json N)) : String :=
  ((events.reverse.find? isChainedEvent).map (textOf · "chainHash")).getD genesisHash

/-! ### Accepted trails -/

/-- The checks of `verifyEvent`, all passed. -/
structure Verified (hashText : String → String) (event : Json N) (expectedPrevHash : String)
    (index : Nat) : Prop where
  formatVersion : textOf event "auditFormatVersion" = currentAuditFormatVersion
  prevHash : textOf event "prevHash" = expectedPrevHash
  chainHash : computeChainHash hashText (textOf event "prevHash")
    (event.without ["chainHash"]) = textOf event "chainHash"
  sequence : sequenceOf event = some (index + 1)
  semanticDigest : computeCanonicalEventDigest hashText event =
    textOf event "semanticEventDigest"

theorem verifyEvent_valid_iff {hashText : String → String} {event : Json N}
    {expectedPrevHash : String} {index : Nat} :
    (verifyEvent hashText event expectedPrevHash index).valid = true ↔
      Verified hashText event expectedPrevHash index := by
  constructor
  · intro hvalid
    unfold verifyEvent at hvalid
    dsimp only at hvalid
    split_ifs at hvalid with hversion hprev hchain hsequence hdigest
    exact ⟨bne_iff_ne.not_left.1 hversion, bne_iff_ne.not_left.1 hprev,
      bne_iff_ne.not_left.1 hchain, bne_iff_ne.not_left.1 hsequence,
      bne_iff_ne.not_left.1 hdigest⟩
  · rintro ⟨hversion, hprev, hchain, hsequence, hdigest⟩
    unfold verifyEvent
    dsimp only
    rw [if_neg (bne_iff_ne.not_left.2 hversion), if_neg (bne_iff_ne.not_left.2 hprev),
      if_neg (bne_iff_ne.not_left.2 hchain), if_neg (bne_iff_ne.not_left.2 hsequence),
      if_neg (bne_iff_ne.not_left.2 hdigest)]

/-- What `resolveStructuralChainReason` looks at. -/
def Structural (code : Option ChainVerificationReason) : Prop :=
  code = some .chainBreak ∨ code = some .auditEnvelopeInvalid

theorem verifyEvent_structural {hashText : String → String} {event : Json N}
    {expectedPrevHash : String} {index : Nat}
    (hinvalid : (verifyEvent hashText event expectedPrevHash index).valid = false) :
    Structural (verifyEvent hashText event expectedPrevHash index).reasonCode := by
  unfold verifyEvent at hinvalid ⊢
  dsimp only at hinvalid ⊢
  split_ifs at hinvalid ⊢
  · exact .inr rfl
  · exact .inl rfl
  · exact .inl rfl
  · exact .inl rfl
  · exact .inl rfl

theorem sessionVerification_structural {hashText : String → String} {event : Json N}
    {expectedPrevHash session : String} {index : Nat}
    (hinvalid : (sessionVerification session event index
      (verifyEvent hashText event expectedPrevHash index)).valid = false) :
    Structural (sessionVerification session event index
      (verifyEvent hashText event expectedPrevHash index)).reasonCode := by
  unfold sessionVerification at hinvalid ⊢
  split_ifs at hinvalid ⊢
  · exact verifyEvent_structural hinvalid
  · exact .inl rfl

theorem sessionVerification_valid_iff {hashText : String → String} {event : Json N}
    {expectedPrevHash session : String} {index : Nat} :
    (sessionVerification session event index
      (verifyEvent hashText event expectedPrevHash index)).valid = true ↔
      textOf event "flowguardSessionId" = session ∧
        Verified hashText event expectedPrevHash index := by
  rw [sessionVerification]
  split_ifs with hsession
  · rw [verifyEvent_valid_iff, and_iff_right hsession]
  · exact iff_of_false not_false fun h => hsession h.1

theorem resolveStructural_track {failures : FirstVerificationFailures}
    {verification : EventVerification}
    (hcode : verification.valid = false → Structural verification.reasonCode) :
    resolveStructuralChainReason (failures.track verification) = none ↔
      resolveStructuralChainReason failures = none ∧ verification.valid = true := by
  cases hvalid : verification.valid with
  | true =>
      rw [FirstVerificationFailures.track, if_pos hvalid, and_iff_left rfl]
  | false =>
      have hfalse : ¬verification.valid = true := by rw [hvalid]; exact Bool.false_ne_true
      rw [FirstVerificationFailures.track, if_neg hfalse]
      refine iff_of_false ?_ fun h => Bool.false_ne_true h.2
      unfold resolveStructuralChainReason
      rcases hcode hvalid with hcode | hcode
      · simp [hcode]
      · simp only [hcode]
        split_ifs <;> simp_all

/-- The walk over a whole trail. -/
def walkTrail (hashText : String → String) (expected : Option String) (raws : List (Json N)) :
    ChainWalk N :=
  ChainWalk.records hashText 0 (.initial ⟨false, expected⟩) raws

theorem records_append (hashText : String → String) (index : Nat) (walk : ChainWalk N)
    (raws : List (Json N)) (raw : Json N) :
    ChainWalk.records hashText index walk (raws ++ [raw]) =
      (ChainWalk.records hashText index walk raws).record hashText (index + raws.length)
        raw := by
  induction raws generalizing index walk with
  | nil => rfl
  | cons first rest ih =>
      rw [List.cons_append, ChainWalk.records, ChainWalk.records, ih, List.length_cons,
        Nat.add_right_comm]
      rfl

theorem walkTrail_snoc (hashText : String → String) (expected : Option String)
    (raws : List (Json N)) (raw : Json N) :
    walkTrail hashText expected (raws ++ [raw]) =
      (walkTrail hashText expected raws).record hashText raws.length raw := by
  rw [walkTrail, records_append, Nat.zero_add]
  rfl

/-- A trail without a structural failure, its last hash and its session. -/
inductive Chained (hashText : String → String) (expected : Option String) :
    List (Json N) → String → Option String → Prop where
  | nil : Chained hashText expected [] genesisHash expected
  | snoc {raws : List (Json N)} {lastHash : String} {session : Option String}
      {raw event : Json N} (hchained : Chained hashText expected raws lastHash session)
      (hparse : safeParse raw = some event)
      (hverified : Verified hashText event lastHash raws.length)
      (hsession : textOf event "flowguardSessionId" = trailSession session event) :
      Chained hashText expected (raws ++ [raw]) (textOf event "chainHash")
        (some (trailSession session event))

theorem chained_of_resolveStructural {hashText : String → String} {expected : Option String}
    {raws : List (Json N)}
    (hclean : resolveStructuralChainReason (walkTrail hashText expected raws).failures =
      none) :
    Chained hashText expected raws (walkTrail hashText expected raws).lastHash
      (walkTrail hashText expected raws).trailFlowguardSessionId := by
  induction raws using List.reverseRecOn with
  | nil => exact .nil
  | append_singleton raws raw ih =>
      rw [walkTrail_snoc] at hclean ⊢
      unfold ChainWalk.record at hclean ⊢
      cases hparse : safeParse raw with
      | none =>
          rw [hparse] at hclean
          exact absurd ((resolveStructural_track fun _ => .inr rfl).1 hclean).2
            Bool.false_ne_true
      | some event =>
          rw [hparse] at hclean
          obtain ⟨hwalk, hvalid⟩ :=
            (resolveStructural_track sessionVerification_structural).1 hclean
          obtain ⟨hsession, hverified⟩ := sessionVerification_valid_iff.1 hvalid
          exact (ih hwalk).snoc hparse hverified hsession

theorem Chained.walkTrail_eq {hashText : String → String} {expected : Option String}
    {raws : List (Json N)} {lastHash : String} {session : Option String}
    (hchained : Chained hashText expected raws lastHash session) :
    (walkTrail hashText expected raws).lastHash = lastHash ∧
      (walkTrail hashText expected raws).trailFlowguardSessionId = session ∧
      resolveStructuralChainReason (walkTrail hashText expected raws).failures = none := by
  induction hchained with
  | nil => exact ⟨rfl, rfl, rfl⟩
  | snoc hchained hparse hverified hsession ih =>
      obtain ⟨hlast, hwalkSession, hclean⟩ := ih
      rw [walkTrail_snoc, ChainWalk.record, hparse]
      dsimp only
      rw [hlast, hwalkSession]
      refine ⟨rfl, rfl, (resolveStructural_track sessionVerification_structural).2 ⟨hclean, ?_⟩⟩
      exact sessionVerification_valid_iff.2 ⟨hsession, hverified⟩

/-- The events of a trail with the positions they were read at. -/
def numberedEvents (index : Nat) : List (Json N) → List (Nat × Json N)
  | [] => []
  | raw :: rest =>
      match safeParse raw with
      | none => numberedEvents (index + 1) rest
      | some event => (index, event) :: numberedEvents (index + 1) rest

theorem records_canonicalEvents (hashText : String → String) (index : Nat)
    (walk : ChainWalk N) (raws : List (Json N)) :
    (ChainWalk.records hashText index walk raws).canonicalEvents =
      walk.canonicalEvents ++ numberedEvents index raws := by
  induction raws generalizing index walk with
  | nil => exact (List.append_nil _).symm
  | cons raw rest ih =>
      rw [ChainWalk.records, ih, numberedEvents, ChainWalk.record]
      cases safeParse raw with
      | none => rfl
      | some event =>
          rw [List.append_assoc]
          rfl

/-- The timestamp checks that count. -/
def TimestampsPass (hashText : String → String) (strictTimestamps : Bool)
    (raws : List (Json N)) : Prop :=
  let checks := verifyTimestampChecks hashText (numberedEvents 0 raws) strictTimestamps
  checks.timestampMonotonicity.valid = true ∧
    (strictTimestamps = true → resolveTimestampReason checks = none)

/-- A trail is accepted when its records are chained and its timestamps pass. -/
theorem verifyChain_valid_iff {hashText : String → String} {raws : List (Json N)}
    {options : ChainVerifyOptions} :
    (verifyChain hashText raws options).valid = true ↔
      (∃ lastHash session,
        Chained hashText options.expectedFlowguardSessionId raws lastHash session) ∧
      TimestampsPass hashText options.strictTimestamps raws := by
  have hwalk : ChainWalk.records hashText 0 (.initial options) raws =
      walkTrail hashText options.expectedFlowguardSessionId raws := rfl
  have hevents : (walkTrail hashText options.expectedFlowguardSessionId raws).canonicalEvents =
      numberedEvents 0 raws := records_canonicalEvents hashText 0 _ raws
  rw [verifyChain]
  dsimp only
  rw [hwalk, hevents, Option.isNone_iff_eq_none, resolveChainReason]
  constructor
  · intro hreason
    cases hclean : resolveStructuralChainReason
        (walkTrail hashText options.expectedFlowguardSessionId raws).failures with
    | some reason =>
        rw [hclean] at hreason
        cases hreason
    | none =>
        rw [hclean] at hreason
        dsimp only at hreason
        split_ifs at hreason with hmonotone hstrict
        · refine ⟨⟨_, _, chained_of_resolveStructural hclean⟩, by simpa using hmonotone, ?_⟩
          intro h
          rw [h] at hstrict
          cases hstrict
        · exact ⟨⟨_, _, chained_of_resolveStructural hclean⟩, by simpa using hmonotone,
            fun _ => hreason⟩
  · rintro ⟨⟨lastHash, session, hchained⟩, hmonotone, hstrict⟩
    rw [hchained.walkTrail_eq.2.2]
    dsimp only
    rw [hmonotone]
    cases h : options.strictTimestamps with
    | false => rfl
    | true =>
        rw [h] at hstrict
        exact hstrict rfl

/-! ### Timestamps of one event more -/

/-- An event recorded no earlier than the one before it, and no earlier than it
occurred. -/
def RecordedAfter (previous : Option Int) (event : Json N) : Prop :=
  ∃ recorded occurred, dateParse (textOf event "recordedAt") = some recorded ∧
    dateParse (textOf event "occurredAt") = some occurred ∧ occurred ≤ recorded ∧
    ∀ earlier ∈ previous, earlier ≤ recorded

/-- The record time that a walk over the events ends with. -/
def lastRecorded (previous : Option Int) (events : List (Json N)) : Option Int :=
  events.getLast?.elim previous fun event => dateParse (textOf event "recordedAt")

omit [JsonNumber N] in
theorem monotonicityFrom_cons {i : Nat} {previous : Option (Int × String)} {event : Json N}
    {rest : List (Json N)} :
    (monotonicityFrom i previous (event :: rest)).valid = true ↔
      RecordedAfter (previous.map Prod.fst) event ∧
        ∀ recorded ∈ dateParse (textOf event "recordedAt"),
          (monotonicityFrom (i + 1) (some (recorded, textOf event "recordedAt")) rest).valid =
            true := by
  simp only [monotonicityFrom, RecordedAfter]
  rcases dateParse (textOf event "recordedAt") with _ | recorded
  · simp
  rcases dateParse (textOf event "occurredAt") with _ | occurred
  · simp
  by_cases hoccurred : recorded < occurred
  · simp [hoccurred]
  rcases previous with _ | ⟨earlier, earlierText⟩
  · simp [hoccurred, Int.not_lt.1 hoccurred]
  · by_cases hearlier : recorded < earlier
    · simp [hoccurred, hearlier]
    · simp [hoccurred, hearlier, Int.not_lt.1 hoccurred, Int.not_lt.1 hearlier]

omit [JsonNumber N] in
theorem monotonicityFrom_concat {i : Nat} {previous : Option (Int × String)}
    {events : List (Json N)} {event : Json N} :
    (monotonicityFrom i previous (events ++ [event])).valid = true ↔
      (monotonicityFrom i previous events).valid = true ∧
        RecordedAfter (lastRecorded (previous.map Prod.fst) events) event := by
  induction events generalizing i previous with
  | nil =>
      rw [List.nil_append, monotonicityFrom_cons]
      simp [monotonicityFrom, lastRecorded]
  | cons first rest ih =>
      have hlast : ∀ recorded ∈ dateParse (textOf first "recordedAt"),
          lastRecorded (some recorded) rest =
            lastRecorded (previous.map Prod.fst) (first :: rest) := by
        intro recorded hrecorded
        rcases List.eq_nil_or_concat' rest with rfl | ⟨_, _, rfl⟩
        · exact (Option.mem_def.1 hrecorded).symm
        · simp [lastRecorded, List.getLast?_cons]
      simp only [List.cons_append, monotonicityFrom_cons, ih, Option.map_some, and_assoc]
      refine and_congr_right fun hfirst => ?_
      obtain ⟨recorded, _, hrecorded, _⟩ := hfirst
      simp only [hrecorded, Option.mem_some, forall_eq']
      rw [hlast recorded hrecorded]

/-- What strict verification asks of the evidence of one event. -/
def EvidencePasses (hashText : String → String) (event : Json N) : Prop :=
  (verifyTsaMessageImprint hashText event).valid = true ∧
    missesCriticalEvidence ["decision", "lifecycle"] event = false

theorem resolveTimestampReason_strict {hashText : String → String}
    {entries : List (Nat × Json N)} :
    resolveTimestampReason (verifyTimestampChecks hashText entries true) = none ↔
      (verifyTimestampMonotonicity (entries.map Prod.snd)).valid = true ∧
        ∀ entry ∈ entries, EvidencePasses hashText entry.2 := by
  have hnone : ∀ checks : TimestampChecks, resolveTimestampReason checks = none ↔
      checks.timestampMonotonicity.valid = true ∧ checks.tsaEvidenceDowngraded = [] ∧
        checks.tsaImprintMismatches = [] ∧ checks.missingTimestampEvidence = [] ∧
        checks.tokenVerificationRequired = [] := by
    intro checks
    unfold resolveTimestampReason
    split_ifs <;> simp_all
  simp only [hnone, verifyTimestampChecks, Bool.not_true, Bool.false_eq_true, if_false,
    List.map_eq_nil_iff, List.filter_eq_nil_iff, List.mem_filterMap,
    Option.ite_none_left_eq_some]
  refine and_congr_right fun _ => ⟨?_, fun hpass => ?_⟩
  · rintro ⟨hdowngraded, hmismatch, hmissing, htoken⟩ entry hmem
    refine ⟨?_, by simpa using hmissing entry hmem⟩
    by_contra hvalid
    have hdowngraded := hdowngraded (entry.1, _) ⟨entry, hmem, hvalid, rfl⟩
    have hmismatch := hmismatch (entry.1, _) ⟨entry, hmem, hvalid, rfl⟩
    have htoken := htoken (entry.1, _) ⟨entry, hmem, hvalid, rfl⟩
    simp_all
  · refine ⟨?_, ?_, fun entry hmem => by simp [(hpass entry hmem).2], ?_⟩ <;>
      exact fun _ ⟨entry, hmem, hvalid, _⟩ => absurd (hpass entry hmem).1 hvalid

omit [JsonNumber N] in
theorem verifyTimestampMonotonicity_concat {events : List (Json N)} {event : Json N} :
    (verifyTimestampMonotonicity (events ++ [event])).valid = true ↔
      (verifyTimestampMonotonicity events).valid = true ∧
        RecordedAfter (lastRecorded none events) event :=
  monotonicityFrom_concat

theorem numberedEvents_append (index : Nat) (raws raws' : List (Json N)) :
    numberedEvents index (raws ++ raws') =
      numberedEvents index raws ++ numberedEvents (index + raws.length) raws' := by
  induction raws generalizing index with
  | nil => rfl
  | cons raw rest ih =>
      rw [List.cons_append, numberedEvents, numberedEvents, List.length_cons]
      rcases safeParse raw with _ | event
      · simp only [ih, Nat.add_assoc, Nat.add_comm 1]
      · simp only [ih, Nat.add_assoc, Nat.add_comm 1, List.cons_append]

/-- One event more passes when the trail does and the event adds nothing wrong. -/
theorem timestampsPass_concat {hashText : String → String} {strictTimestamps : Bool}
    {raws : List (Json N)} {raw event : Json N} (hparse : safeParse raw = some event) :
    TimestampsPass hashText strictTimestamps (raws ++ [raw]) ↔
      TimestampsPass hashText strictTimestamps raws ∧
        RecordedAfter (lastRecorded none ((numberedEvents 0 raws).map Prod.snd)) event ∧
        (strictTimestamps = true → EvidencePasses hashText event) := by
  have hentries : numberedEvents 0 (raws ++ [raw]) =
      numberedEvents 0 raws ++ [(raws.length, event)] := by
    simp [numberedEvents_append, numberedEvents, hparse]
  have hmonotone : ∀ (strict : Bool) (entries : List (Nat × Json N)),
      (verifyTimestampChecks hashText entries strict).timestampMonotonicity.valid =
        (verifyTimestampMonotonicity (entries.map Prod.snd)).valid := by
    intro strict entries
    unfold verifyTimestampChecks
    rcases strict with _ | _ <;> rfl
  simp only [TimestampsPass, hentries, hmonotone, List.map_append, List.map_singleton,
    verifyTimestampMonotonicity_concat]
  rcases strictTimestamps with _ | _
  · simp
  · simp only [forall_const, resolveTimestampReason_strict, List.map_append,
      List.map_singleton, verifyTimestampMonotonicity_concat, List.forall_mem_append,
      List.forall_mem_singleton]
    tauto

end GovernedRuntime.Audit
