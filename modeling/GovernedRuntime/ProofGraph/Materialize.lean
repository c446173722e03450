/-
The contract an approved plan is materialised into
(`src/integration/proofgraph/materialize-contract.ts`), and the digests its claims
keep when the contract is written and read again.
-/
import GovernedRuntime.ProofGraph.ClaimDigest
import GovernedRuntime.ProofGraph.Derive
import GovernedRuntime.ProofGraph.GateSoundness

namespace GovernedRuntime.ProofGraph.Canonical

open GovernedRuntime.Audit GovernedRuntime.Library GovernedRuntime.State

/-! ### Materialisation -/

/-- What materialisation reads beside the session. -/
structure MaterializationInputs where
  /-- `resolveMutationAttempt`: the attempt that verifies a profile, from the reports
  on disk. -/
  mutationAttempt : String → Option String
  /-- `result.fullCheckScopeAttestation === 'full_check'` -/
  attestsFullCheck : ValidationResult → Bool

structure MaterializedPlanContract where
  contract : ProofContract
  coverage : List ProofContractCoverage

def emptyContract : ProofContract := ⟨[]⟩

def candidateKindName : VerificationCandidateKind → String
  | .build => "build"
  | .test => "test"
  | .lint => "lint"
  | .typecheck => "typecheck"
  | .format => "format"
  | .security => "security"
  | .coverage => "coverage"

def certifiedPlanOrigin (hashText : String → String) (declaration : PlanClaimDeclaration) :
    CertifiedPlan :=
  { authoritySectionId := declaration.authoritySectionId
    expectedCheckId := declaration.expectedCheckId
    expectedAssertion := declaration.expectedAssertion
    structuralSurface := declaration.structuralSurface
    mutationProfile := declaration.mutationProfile
    digest := certifiedClaimDigest hashText declaration }

def resolveMutationAttempt (inputs : MaterializationInputs)
    (declaration : PlanClaimDeclaration) : Option String :=
  (truthy declaration.mutationProfile).bind inputs.mutationAttempt

def evidenceRefs (expectedAttempts : List ValidationAttempt) (declaration : PlanClaimDeclaration)
    (mutationAttempt : Option String) : List ClaimEvidenceRef :=
  expectedAttempts.map (fun attempt => .validationAttempt attempt.attemptId) ++
    ((truthy declaration.structuralSurface).map .structuralSurface).toList ++
    (match truthy declaration.mutationProfile, mutationAttempt with
      | some profile, some attemptId => [.mutationAttempt attemptId profile]
      | _, _ => [])

def isAggregateCounterexampleAttempt (inputs : MaterializationInputs)
    (attempt : ValidationAttempt) (requiredCheckId : String)
    (requiredCandidateId : Option String) : Bool :=
  attempt.result.checkId == requiredCheckId &&
    (requiredCandidateId.isNone || attempt.result.candidateId == requiredCandidateId) &&
    inputs.attestsFullCheck attempt.result &&
    (match attempt.result.assertionExtraction with
      | some (.extracted _ _ .aggregate _ _) => true
      | _ => false)

def resolveCounterexampleAttempts (inputs : MaterializationInputs) (s : SessionState)
    (declaration : PlanClaimDeclaration) (attempts : List ValidationAttempt) :
    List ValidationAttempt × List ProofContractCoverage :=
  match declaration.counterexampleRequirement with
  | none => ([], [])
  | some (.aggregateCheck checkId candidateId) =>
      if checkId = "" then ([], [])
      else
        let aggregateAttempts := attempts.filter fun attempt =>
          isAggregateCounterexampleAttempt inputs attempt checkId candidateId
        if aggregateAttempts.length > 0 then (aggregateAttempts, [])
        else ([], [⟨some declaration.claimId, .aggregateCounterexampleUnsupported⟩])
  | some (.assertion checkId _) =>
      if checkId = "" then ([], [])
      else
        let candidate := (s.verificationCandidates.getD []).find? fun candidate =>
          candidateKindName candidate.kind == checkId
        match candidate.map VerificationCandidate.assertionCapability with
        | some (AssertionCapability.structured _) =>
            (attempts.filter fun attempt => attempt.result.checkId == checkId, [])
        | _ => ([], [⟨some declaration.claimId, .invalidCounterexampleContract⟩])

/-- The adversarial attempts that are not positive evidence already. -/
def independentAdversarialAttempts (expectedAttempts counterexampleAttempts :
    List ValidationAttempt) (claimId : String) :
    List ValidationAttempt × List ProofContractCoverage :=
  let positiveAttemptIds := expectedAttempts.map (·.attemptId)
  let adversarialAttempts := counterexampleAttempts.filter fun attempt =>
    !positiveAttemptIds.contains attempt.attemptId
  (adversarialAttempts,
    if adversarialAttempts.length ≠ counterexampleAttempts.length then
      [⟨some claimId, .evidenceRoleCollision⟩]
    else [])

section Claims

variable (hashText : String → String) (inputs : MaterializationInputs) (s : SessionState)
  (certificate : PlanApprovalCertificate) (attempts : List ValidationAttempt)

/-- The claim a declaration is materialised into, and its coverage gaps. -/
def materializeClaim (declaration : PlanClaimDeclaration) :
    DeclaredClaim × List ProofContractCoverage :=
  let expectedAttempts := attempts.filter fun attempt =>
    attempt.result.checkId == declaration.expectedCheckId
  let missingCheck : List ProofContractCoverage :=
    if expectedAttempts.length = 0 then [⟨some declaration.claimId, .missingExpectedCheck⟩] else []
  let mutationAttempt := resolveMutationAttempt inputs declaration
  let unverifiedProfile : List ProofContractCoverage :=
    if (truthy declaration.mutationProfile).isSome && mutationAttempt.isNone then
      [⟨some declaration.claimId, .unverifiedMutationProfile⟩]
    else []
  let (counterexampleAttempts, cxGap) :=
    resolveCounterexampleAttempts inputs s declaration attempts
  let (adversarialAttempts, collision) :=
    independentAdversarialAttempts expectedAttempts counterexampleAttempts declaration.claimId
  ({ claimId := declaration.claimId
     statement := declaration.statement
     signalClass := .fact
     critical := declaration.critical
     claimScope := some declaration.claimScope
     certifiedPlan := some (certifiedPlanOrigin hashText declaration)
     provenance := some (.canonicalAuthority "plan" certificate.authorityDigest
       (some
         { certificateId := certificate.certificateId
           claimDeclarationsDigest := certificate.claimDeclarationsDigest
           decisionAttestationDigest := certificate.decisionAttestationDigest
           declarationId := declaration.claimId }))
     evidenceRefs := evidenceRefs expectedAttempts declaration mutationAttempt
     counterexampleRefs := adversarialAttempts.map fun attempt =>
       .validationAttempt attempt.attemptId
     counterexampleRequirement := declaration.counterexampleRequirement
     coversRiskTriggers := declaration.coversRiskTriggers
     requiredEvidence := some (requiredEvidenceForDeclaration declaration)
     confidence := none },
    missingCheck ++ unverifiedProfile ++ cxGap ++ collision)

end Claims

def isImplementationAttempt (implementationDigest : String) (attempt : ValidationAttempt) : Bool :=
  match attempt.scope with
  | .implementation _ digest => digest == implementationDigest
  | .baseline _ => false

/-- `validateApprovedPlanCertificate` -/
def validateApprovedPlanCertificate (hashing : Hashing) (s : SessionState) :
    Except CoverageCause PlanApprovalCertificate :=
  match s.plan.bind (·.approvalCertificate) with
  | none => .error .missingCertificate
  | some certificate =>
      if hasCurrentPlanApprovalCertificateForState hashing s then .ok certificate
      else .error .invalidCertificate

def materializeApprovedPlanContractResult (hashing : Hashing) (inputs : MaterializationInputs)
    (s : SessionState) : MaterializedPlanContract :=
  match (s.plan.bind (·.claimDeclarations)).getD [] with
  | [] => ⟨emptyContract, [⟨none, .missingDeclarations⟩]⟩
  | declarations =>
      match validateApprovedPlanCertificate hashing s with
      | .error cause => ⟨emptyContract, [⟨none, cause⟩]⟩
      | .ok certificate =>
          match truthy (s.implementation.map (·.digest)) with
          | none => ⟨emptyContract, [⟨none, .missingImplementation⟩]⟩
          | some implementationDigest =>
              let attempts := s.validationAttempts.filter
                (isImplementationAttempt implementationDigest)
              let claims := declarations.map
                (materializeClaim hashing.hashText inputs s certificate attempts)
              ⟨⟨claims.map (·.1)⟩, claims.flatMap (·.2)⟩

theorem agrees_materializeClaim (hashText : String → String) (inputs : MaterializationInputs)
    (s : SessionState) (certificate : PlanApprovalCertificate) (attempts : List ValidationAttempt)
    (declaration : PlanClaimDeclaration) :
    Agrees declaration (materializeClaim hashText inputs s certificate attempts declaration).1
      (certifiedPlanOrigin hashText declaration) where
  claimId := rfl
  statement := rfl
  critical := rfl
  claimScope := rfl
  authoritySectionId := rfl
  expectedCheckId := rfl
  expectedAssertion := rfl
  structuralSurface := rfl
  mutationProfile := rfl
  counterexampleRequirement := rfl
  coversRiskTriggers := List.Perm.refl _
  requiredEvidence := ⟨_, rfl, List.Perm.refl _, rfl⟩

/-! ### The contract on disk -/

def signalClassName : SignalClass → String
  | .fact => "fact"
  | .derivedSignal => "derived_signal"
  | .hypothesis => "hypothesis"

/-- The value a canonical text stands for. -/
def valueOfText (text : CanonicalText) : Json Nat := (Json.parse text).getD .null

def approvalJson (approval : AuthorityApproval) : Json Nat :=
  .object [("certificateId", .string approval.certificateId),
    ("claimDeclarationsDigest", .string approval.claimDeclarationsDigest),
    ("decisionAttestationDigest", .string approval.decisionAttestationDigest),
    ("declarationId", .string approval.declarationId)]

def authorityJson : ClaimAuthorityRef → Json Nat
  | .approvedTicket ticketDigest =>
      .object [("kind", .string "approved_ticket"), ("ticketDigest", .string ticketDigest)]
  | .planAdrSection other => valueOfText other
  | .canonicalAuthority authorityId digest approval =>
      .object (defined [("kind", some (.string "canonical_authority")),
        ("authorityId", some (.string authorityId)), ("digest", some (.string digest)),
        ("approval", approval.map approvalJson)])

def evidenceRefJson : ClaimEvidenceRef → Json Nat
  | .validationAttempt attemptId =>
      .object [("kind", .string "validation_attempt"), ("attemptId", .string attemptId)]
  | .implementation implementationDigest diffDigest =>
      .object (defined [("kind", some (.string "implementation")),
        ("implementationDigest", some (.string implementationDigest)),
        ("diffDigest", diffDigest.map .string)])
  | .content digest => .object [("kind", .string "content"), ("digest", .string digest)]
  | .structuralSurface surfaceId =>
      .object [("kind", .string "structural_surface"), ("surfaceId", .string surfaceId)]
  | .mutationProfile profileId =>
      .object [("kind", .string "mutation_profile"), ("profileId", .string profileId)]
  | .mutationAttempt attemptId profileId =>
      .object [("kind", .string "mutation_attempt"), ("attemptId", .string attemptId),
        ("profileId", .string profileId)]

def certifiedPlanJson (origin : CertifiedPlan) : Json Nat :=
  .object (defined [("authoritySectionId", some (.string origin.authoritySectionId)),
    ("expectedCheckId", some (.string origin.expectedCheckId)),
    ("expectedAssertion", origin.expectedAssertion.map assertionJson),
    ("structuralSurface", origin.structuralSurface.map .string),
    ("mutationProfile", origin.mutationProfile.map .string),
    ("digest", some (.string origin.digest))])

def claimRecord (claim : DeclaredClaim) : Properties :=
  [("claimId", some (.string claim.claimId)),
    ("statement", some (.string claim.statement)),
    ("signalClass", some (.string (signalClassName claim.signalClass))),
    ("critical", some (.bool claim.critical)),
    ("claimScope", claim.claimScope.map fun scope => .string (claimScopeName scope)),
    ("certifiedPlan", claim.certifiedPlan.map certifiedPlanJson),
    ("provenance", some ((claim.provenance.map authorityJson).getD .null)),
    ("evidenceRefs", some (.array (claim.evidenceRefs.map evidenceRefJson))),
    ("counterexampleRefs", some (.array (claim.counterexampleRefs.map evidenceRefJson))),
    ("counterexampleRequirement", claim.counterexampleRequirement.map counterexampleJson),
    ("coversRiskTriggers", claim.coversRiskTriggers.map riskTriggersJson),
    ("requiredEvidence", claim.requiredEvidence.map requiredEvidenceJson),
    ("confidence", claim.confidence.map valueOfText)]

def claimJson (claim : DeclaredClaim) : Json Nat := .object (defined (claimRecord claim))

def contractJson (contract : ProofContract) : Json Nat :=
  .object [("version", .string "contract.v2"), ("claims", .array (contract.claims.map claimJson))]

/-! ### Reading it again -/

section Readers

variable {α : Type}

def textAt (value : Json Nat) (key : String) : Option String := (value.get? key).bind Json.text?

def boolAt (value : Json Nat) (key : String) : Option Bool :=
  match value.get? key with
  | some (.bool shown) => some shown
  | _ => none

def optionalAt (value : Json Nat) (key : String) (read : Json Nat → Option α) :
    Option (Option α) :=
  match value.get? key with
  | none => some none
  | some shown => (read shown).map some

def nullableAt (value : Json Nat) (key : String) (read : Json Nat → Option α) :
    Option (Option α) :=
  match value.get? key with
  | none => none
  | some .null => some none
  | some shown => (read shown).map some

def readList (read : Json Nat → Option α) : Json Nat → Option (List α)
  | .array items => items.mapM read
  | _ => none

def listAt (value : Json Nat) (key : String) (read : Json Nat → Option α) : Option (List α) :=
  (value.get? key).bind (readList read)

/-- `z.enum(..)` -/
def readEnum (name : α → String) (members : List α) (value : Json Nat) : Option α :=
  value.text?.bind fun text => members.find? fun member => name member == text

end Readers

def readAssertion (value : Json Nat) : Option AssertionIdentity := do
  pure ⟨← textAt value "providerId", ← textAt value "localId"⟩

def readCounterexampleRequirement (value : Json Nat) : Option CounterexampleRequirement :=
  if textAt value "kind" = some "assertion" then do
    pure (.assertion (← textAt value "checkId") (← (value.get? "assertion").bind readAssertion))
  else if textAt value "kind" = some "aggregate_check" then do
    pure (.aggregateCheck (← textAt value "checkId")
      (← optionalAt value "candidateId" Json.text?))
  else none

def readApproval (value : Json Nat) : Option AuthorityApproval := do
  pure ⟨← textAt value "certificateId", ← textAt value "claimDeclarationsDigest",
    ← textAt value "decisionAttestationDigest", ← textAt value "declarationId"⟩

def readAuthority (value : Json Nat) : Option ClaimAuthorityRef :=
  if textAt value "kind" = some "approved_ticket" then do
    pure (.approvedTicket (← textAt value "ticketDigest"))
  else if textAt value "kind" = some "plan_adr_section" then
    some (.planAdrSection (canonicalJsonStringify value))
  else if textAt value "kind" = some "canonical_authority" then do
    pure (.canonicalAuthority (← textAt value "authorityId") (← textAt value "digest")
      (← optionalAt value "approval" readApproval))
  else none

def readEvidenceRef (value : Json Nat) : Option ClaimEvidenceRef :=
  if textAt value "kind" = some "validation_attempt" then do
    pure (.validationAttempt (← textAt value "attemptId"))
  else if textAt value "kind" = some "implementation" then do
    pure (.implementation (← textAt value "implementationDigest")
      (← optionalAt value "diffDigest" Json.text?))
  else if textAt value "kind" = some "content" then do
    pure (.content (← textAt value "digest"))
  else if textAt value "kind" = some "structural_surface" then do
    pure (.structuralSurface (← textAt value "surfaceId"))
  else if textAt value "kind" = some "mutation_profile" then do
    pure (.mutationProfile (← textAt value "profileId"))
  else if textAt value "kind" = some "mutation_attempt" then do
    pure (.mutationAttempt (← textAt value "attemptId") (← textAt value "profileId"))
  else none

def readCertifiedPlan (value : Json Nat) : Option CertifiedPlan := do
  pure
    { authoritySectionId := ← textAt value "authoritySectionId"
      expectedCheckId := ← textAt value "expectedCheckId"
      expectedAssertion := ← optionalAt value "expectedAssertion" readAssertion
      structuralSurface := ← optionalAt value "structuralSurface" Json.text?
      mutationProfile := ← optionalAt value "mutationProfile" Json.text?
      digest := ← textAt value "digest" }

def signalClasses : List SignalClass := [.fact, .derivedSignal, .hypothesis]

def claimScopes : List ClaimScope := [.specificBehavior, .suite]

def providerKinds : List ProofProviderKind :=
  [.executedTest, .structuralAssertion, .schemaCompare, .faultInjection]

def specificRiskTriggers : List SpecificRiskTrigger :=
  [.stateIntegrity, .auditAuthority, .identityBoundary, .approvalAuthority, .policyAuthority,
    .migration, .distributionIntegrity, .commandContract]

def readRequiredEvidence (value : Json Nat) : Option RequiredEvidence := do
  let adversarial ← listAt value "adversarial" (readEnum (fun _ => "counterexample") [()])
  pure ⟨← listAt value "positive" (readEnum providerKindName providerKinds), adversarial.length⟩

/-- What the schema of claims makes of a value; it also checks lengths and formats. -/
def readClaim (value : Json Nat) : Option DeclaredClaim := do
  pure
    { claimId := ← textAt value "claimId"
      statement := ← textAt value "statement"
      signalClass := ← (value.get? "signalClass").bind (readEnum signalClassName signalClasses)
      critical := ← boolAt value "critical"
      claimScope := ← optionalAt value "claimScope" (readEnum claimScopeName claimScopes)
      provenance := ← nullableAt value "provenance" readAuthority
      evidenceRefs := ← listAt value "evidenceRefs" readEvidenceRef
      counterexampleRefs := ← listAt value "counterexampleRefs" readEvidenceRef
      requiredEvidence := ← optionalAt value "requiredEvidence" readRequiredEvidence
      counterexampleRequirement :=
        ← optionalAt value "counterexampleRequirement" readCounterexampleRequirement
      coversRiskTriggers := ← optionalAt value "coversRiskTriggers"
        (readList (readEnum SpecificRiskTrigger.name specificRiskTriggers))
      certifiedPlan := ← optionalAt value "certifiedPlan" readCertifiedPlan
      confidence := ← optionalAt value "confidence" fun shown =>
        some (canonicalJsonStringify shown) }

def readContract (text : String) : Option ProofContract := do
  let value ← Json.parse text
  if textAt value "version" = some "contract.v2" then
    pure ⟨← listAt value "claims" readClaim⟩
  else none

section RoundTrip

variable {α : Type} {read : Json Nat → Option α} {encode : α → Json Nat}

theorem get?_defined {record : Properties} (hnodup : (keysOf record).Nodup) (key : String) :
    (Json.object (defined record)).get? key = property record key :=
  lookup_defined hnodup key

theorem optionalAt_of_get? (hread : ∀ a, read (encode a) = some a) {value : Json Nat}
    {key : String} {shown : Option α} (hget : value.get? key = shown.map encode) :
    optionalAt value key read = some shown := by
  rw [optionalAt, hget]
  cases shown with
  | none => rfl
  | some a =>
      simp only [Option.map_some, hread]

theorem readList_of_map (hread : ∀ a, read (encode a) = some a) (items : List α) :
    readList read (.array (items.map encode)) = some items := by
  rw [readList]
  induction items with
  | nil => rfl
  | cons item items ih => simp [List.mapM_cons, hread, ih]

theorem readEnum_name {name : α → String} {members : List α} (hname : Function.Injective name)
    (hmembers : ∀ member, member ∈ members) (member : α) :
    readEnum name members (.string (name member)) = some member := by
  have hfind : members.find? (fun other => name other == name member) = some member := by
    cases hfind : members.find? (fun other => name other == name member) with
    | none => simpa using List.find?_eq_none.1 hfind member (hmembers member)
    | some other =>
        have heq := List.find?_some hfind
        rw [hname (eq_of_beq heq)]
  exact hfind

theorem signalClassName_injective : Function.Injective signalClassName := by
  intro signal other
  cases signal <;> cases other <;> simp [signalClassName]

theorem readSignalClass (signal : SignalClass) :
    readEnum signalClassName signalClasses (.string (signalClassName signal)) = some signal :=
  readEnum_name signalClassName_injective (fun member => by cases member <;> decide) signal

theorem readClaimScope (scope : ClaimScope) :
    readEnum claimScopeName claimScopes (.string (claimScopeName scope)) = some scope :=
  readEnum_name claimScopeName_injective (fun member => by cases member <;> decide) scope

theorem readProviderKind (kind : ProofProviderKind) :
    readEnum providerKindName providerKinds (.string (providerKindName kind)) = some kind :=
  readEnum_name providerKindName_injective (fun member => by cases member <;> decide) kind

theorem readRiskTrigger (trigger : SpecificRiskTrigger) :
    readEnum SpecificRiskTrigger.name specificRiskTriggers (.string trigger.name) = some trigger :=
  readEnum_name riskTriggerName_injective (fun member => by cases member <;> decide) trigger

theorem readCounterexampleRequirement_counterexampleJson
    (requirement : CounterexampleRequirement) :
    readCounterexampleRequirement (counterexampleJson requirement) = some requirement := by
  cases requirement with
  | assertion checkId assertion => rfl
  | aggregateCheck checkId candidateId => cases candidateId <;> rfl

theorem readEvidenceRef_evidenceRefJson (ref : ClaimEvidenceRef) :
    readEvidenceRef (evidenceRefJson ref) = some ref := by
  cases ref with
  | implementation implementationDigest diffDigest => cases diffDigest <;> rfl
  | _ => rfl

theorem readAuthority_canonicalAuthority (authorityId digest : String)
    (approval : Option AuthorityApproval) :
    readAuthority (authorityJson (.canonicalAuthority authorityId digest approval)) =
      some (.canonicalAuthority authorityId digest approval) := by
  cases approval <;> rfl

theorem readCertifiedPlan_certifiedPlanJson (origin : CertifiedPlan) :
    readCertifiedPlan (certifiedPlanJson origin) = some origin := by
  obtain ⟨authoritySectionId, expectedCheckId, expectedAssertion, structuralSurface,
    mutationProfile, digest⟩ := origin
  cases expectedAssertion <;> cases structuralSurface <;> cases mutationProfile <;> rfl

theorem readList_textArray {name : α → String}
    (hread : ∀ a, read (.string (name a)) = some a) (items : List α) :
    readList read (textArray (items.map name)) = some items := by
  rw [textArray, List.map_map]
  exact readList_of_map hread items

theorem readRequiredEvidence_requiredEvidenceJson (required : RequiredEvidence) :
    readRequiredEvidence (requiredEvidenceJson required) = some required := by
  have hpositive : listAt (requiredEvidenceJson required) "positive"
      (readEnum providerKindName providerKinds) = some required.positive :=
    readList_textArray readProviderKind required.positive
  have hadversarial : listAt (requiredEvidenceJson required) "adversarial"
      (readEnum (fun _ => "counterexample") [()]) = some (List.replicate required.adversarial ()) := by
    have hlist := @readList_textArray Unit (readEnum (fun _ => "counterexample") [()])
      (fun _ => "counterexample") (fun _ => rfl) (List.replicate required.adversarial ())
    rw [List.map_replicate] at hlist
    exact hlist
  simp [readRequiredEvidence, hpositive, hadversarial]

/-- The keys of a claim on disk. -/
def persistedClaimKeys : List String :=
  ["claimId", "statement", "signalClass", "critical", "claimScope", "certifiedPlan", "provenance",
    "evidenceRefs", "counterexampleRefs", "counterexampleRequirement", "coversRiskTriggers",
    "requiredEvidence", "confidence"]

/-- Claims under a canonical authority, without a confidence, are read as they were
written. -/
theorem readClaim_claimJson {claim : DeclaredClaim} {authorityId digest : String}
    {approval : Option AuthorityApproval}
    (hprovenance : claim.provenance = some (.canonicalAuthority authorityId digest approval))
    (hconfidence : claim.confidence = none) : readClaim (claimJson claim) = some claim := by
  have hnodup : (keysOf (claimRecord claim)).Nodup := by
    have hkeys : persistedClaimKeys.Nodup := by decide
    exact hkeys
  have hget := get?_defined hnodup
  have hid : textAt (claimJson claim) "claimId" = some claim.claimId :=
    congrArg (Option.bind · Json.text?) (hget "claimId")
  have hstatement : textAt (claimJson claim) "statement" = some claim.statement :=
    congrArg (Option.bind · Json.text?) (hget "statement")
  have hsignal : ((claimJson claim).get? "signalClass").bind
      (readEnum signalClassName signalClasses) = some claim.signalClass :=
    (congrArg (Option.bind · _) (hget "signalClass")).trans (readSignalClass claim.signalClass)
  have hcritical : boolAt (claimJson claim) "critical" = some claim.critical := by
    have hvalue : (claimJson claim).get? "critical" = some (.bool claim.critical) := hget "critical"
    rw [boolAt, hvalue]
  have hscope : optionalAt (claimJson claim) "claimScope"
      (readEnum claimScopeName claimScopes) = some claim.claimScope :=
    optionalAt_of_get? readClaimScope (hget "claimScope")
  have hauthority : nullableAt (claimJson claim) "provenance" readAuthority =
      some claim.provenance := by
    have hvalue : (claimJson claim).get? "provenance" =
        some (authorityJson (.canonicalAuthority authorityId digest approval)) := by
      rw [claimJson, hget "provenance", claimRecord, hprovenance]
      rfl
    rw [nullableAt, hvalue, hprovenance]
    exact congrArg (Option.map some) (readAuthority_canonicalAuthority authorityId digest approval)
  have hrefs : listAt (claimJson claim) "evidenceRefs" readEvidenceRef =
      some claim.evidenceRefs :=
    (congrArg (Option.bind · _) (hget "evidenceRefs")).trans
      (readList_of_map readEvidenceRef_evidenceRefJson claim.evidenceRefs)
  have hcounterexamples : listAt (claimJson claim) "counterexampleRefs" readEvidenceRef =
      some claim.counterexampleRefs :=
    (congrArg (Option.bind · _) (hget "counterexampleRefs")).trans
      (readList_of_map readEvidenceRef_evidenceRefJson claim.counterexampleRefs)
  have hrequired : optionalAt (claimJson claim) "requiredEvidence" readRequiredEvidence =
      some claim.requiredEvidence :=
    optionalAt_of_get? readRequiredEvidence_requiredEvidenceJson (hget "requiredEvidence")
  have hrequirement : optionalAt (claimJson claim) "counterexampleRequirement"
      readCounterexampleRequirement = some claim.counterexampleRequirement :=
    optionalAt_of_get? readCounterexampleRequirement_counterexampleJson
      (hget "counterexampleRequirement")
  have htriggers : optionalAt (claimJson claim) "coversRiskTriggers"
      (readList (readEnum SpecificRiskTrigger.name specificRiskTriggers)) =
        some claim.coversRiskTriggers :=
    optionalAt_of_get? (readList_textArray readRiskTrigger) (hget "coversRiskTriggers")
  have hplan : optionalAt (claimJson claim) "certifiedPlan" readCertifiedPlan =
      some claim.certifiedPlan :=
    optionalAt_of_get? readCertifiedPlan_certifiedPlanJson (hget "certifiedPlan")
  have hnone : optionalAt (claimJson claim) "confidence"
      (fun shown => some (canonicalJsonStringify shown)) = some claim.confidence := by
    have hvalue : (claimJson claim).get? "confidence" = none := by
      rw [claimJson, hget "confidence", claimRecord, hconfidence]
      rfl
    rw [optionalAt, hvalue, hconfidence]
  simp [readClaim, hid, hstatement, hsignal, hcritical, hscope, hauthority, hrefs,
    hcounterexamples, hrequired, hrequirement, htriggers, hplan, hnone]

end RoundTrip

theorem distinct_defined {record : Properties} (hrecord : WellFormed record) :
    (Json.object (defined record)).distinct = true := by
  have hkeys := hrecord.keys.sublist (keysOf_defined_sublist record)
  refine Json.distinct_object.2 ⟨hkeys, ?_⟩
  rintro ⟨key, value⟩ hmem
  have hlookup := (lookup_eq_some_iff_mem hkeys).2 hmem
  rw [lookup_defined hrecord.keys] at hlookup
  exact hrecord.property_distinct value hlookup

@[simp] theorem distinct_certifiedPlanJson (origin : CertifiedPlan) :
    (certifiedPlanJson origin).distinct = true :=
  distinct_defined ⟨by simp [keysOf], by simp⟩

@[simp] theorem distinct_approvalJson (approval : AuthorityApproval) :
    (approvalJson approval).distinct = true :=
  Json.distinct_object.2 ⟨by simp [keysOf], by simp⟩

@[simp] theorem distinct_evidenceRefJson (ref : ClaimEvidenceRef) :
    (evidenceRefJson ref).distinct = true := by
  cases ref with
  | implementation => exact distinct_defined ⟨by simp [keysOf], by simp⟩
  | _ => exact Json.distinct_object.2 ⟨by simp [keysOf], by simp⟩

theorem distinct_canonicalAuthority (authorityId digest : String)
    (approval : Option AuthorityApproval) :
    (authorityJson (.canonicalAuthority authorityId digest approval)).distinct = true :=
  distinct_defined ⟨by simp [keysOf], by simp⟩

/-- A claim as materialisation writes it: under a canonical authority, without a
confidence. -/
structure UnderAuthority (claim : DeclaredClaim) : Prop where
  provenance : ∃ authorityId digest approval,
    claim.provenance = some (.canonicalAuthority authorityId digest approval)
  confidence : claim.confidence = none

theorem UnderAuthority.distinct {claim : DeclaredClaim} (hclaim : UnderAuthority claim) :
    (claimJson claim).distinct = true := by
  obtain ⟨authorityId, digest, approval, hprovenance⟩ := hclaim.provenance
  have hrefs : ∀ refs : List ClaimEvidenceRef,
      (Json.array (refs.map evidenceRefJson)).distinct = true := by
    intro refs
    rw [Json.distinct_array, List.forall_mem_map]
    exact fun ref _ => distinct_evidenceRefJson ref
  apply distinct_defined
  constructor
  · have hkeys : persistedClaimKeys.Nodup := by decide
    exact hkeys
  · simp [claimRecord, hprovenance, hclaim.confidence, distinct_canonicalAuthority, hrefs,
      riskTriggersJson]

theorem printed_eq_self (value : Json Nat) : value.printed = value := by
  apply Json.printed_eq_self_iff.2
  induction value using Json.inductionOn with
  | null => rfl
  | bool value => rfl
  | number value => rfl
  | string value => rfl
  | array items ih => exact Json.isPrintable_array.2 ih
  | object fields ih => exact Json.isPrintable_object.2 ih

/-- A contract of such claims is read as it was written. -/
theorem readContract_contractJson {contract : ProofContract}
    (hclaims : ∀ claim ∈ contract.claims, UnderAuthority claim) :
    readContract (contractJson contract).stringify = some contract := by
  have hdistinct : (contractJson contract).distinct = true := by
    have harray : (Json.array (contract.claims.map claimJson)).distinct = true := by
      rw [Json.distinct_array, List.forall_mem_map]
      exact fun claim hmem => (hclaims claim hmem).distinct
    exact Json.distinct_object.2 ⟨by simp [keysOf], by simp [harray]⟩
  have hlist : listAt (contractJson contract) "claims" readClaim = some contract.claims := by
    have hread : ∀ claims : List DeclaredClaim, (∀ claim ∈ claims, UnderAuthority claim) →
        (claims.map claimJson).mapM readClaim = some claims := by
      intro claims hclaims
      induction claims with
      | nil => rfl
      | cons claim claims ih =>
          obtain ⟨hclaim, hrest⟩ := List.forall_mem_cons.1 hclaims
          obtain ⟨authorityId, digest, approval, hprovenance⟩ := hclaim.provenance
          simp [List.mapM_cons, readClaim_claimJson hprovenance hclaim.confidence, ih hrest]
    exact hread contract.claims hclaims
  have hversion : textAt (contractJson contract) "version" = some "contract.v2" := rfl
  rw [readContract, Json.parse_stringify hdistinct, printed_eq_self]
  simp [hlist, hversion]

/-! ### The claims of a plan -/

variable (hashing : Hashing) (inputs : MaterializationInputs)

/-- The claims of the contract are those of the declarations, when the plan is approved
and implemented. -/
theorem materializeApprovedPlanContractResult_claims {s : SessionState} {plan : PlanRecord}
    {declarations : PlanClaimDeclarations} {implementation : ImplEvidence}
    (hplan : s.plan = some plan) (hdeclared : plan.claimDeclarations = some declarations)
    (hcurrent : hasCurrentPlanApprovalCertificateForState hashing s = true)
    (himplemented : s.implementation = some implementation)
    (hdigest : implementation.digest ≠ "") :
    ∃ certificate attempts,
      (materializeApprovedPlanContractResult hashing inputs s).contract.claims =
        declarations.map fun declaration =>
          (materializeClaim hashing.hashText inputs s certificate attempts declaration).1 := by
  have hcertified : ∃ certificate, plan.approvalCertificate = some certificate := by
    rw [hasCurrentPlanApprovalCertificateForState, hplan] at hcurrent
    obtain ⟨_, ⟨⟩, hany⟩ := (Option.any_eq_true _ _).1 hcurrent
    obtain ⟨certificate, hcertificate, -⟩ := (Option.any_eq_true _ _).1 hany
    exact ⟨certificate, hcertificate⟩
  obtain ⟨certificate, hcertificate⟩ := hcertified
  have hvalid : validateApprovedPlanCertificate hashing s = .ok certificate := by
    simp [validateApprovedPlanCertificate, hplan, hcertificate, hcurrent]
  have htruthy : truthy (s.implementation.map (·.digest)) = some implementation.digest := by
    simp [truthy, himplemented, hdigest]
  refine ⟨certificate, s.validationAttempts.filter
    (isImplementationAttempt implementation.digest), ?_⟩
  cases declarations with
  | nil => simp [materializeApprovedPlanContractResult, hplan, hdeclared, emptyContract]
  | cons declaration rest =>
      simp [materializeApprovedPlanContractResult, hplan, hdeclared, hvalid, htruthy]

/-- Every claim is that of its declaration. -/
def CertifiedClaims (hashText : String → String) (declarations : PlanClaimDeclarations)
    (contract : ProofContract) : Prop :=
  List.Forall₂ (fun declaration claim => claim.claimId = declaration.claimId ∧
    materializedClaimDigest hashText claim = some (certifiedClaimDigest hashText declaration))
    declarations contract.claims

/-- The claims of an approved plan carry the certified digests, in the contract and in
what is read of it again; and where no two texts have one digest, a fact claim under
the digest of a declaration means what the declaration says. -/
theorem certifiedClaimDigest_identifies :
    (∀ (s : SessionState) (plan : PlanRecord) (declarations : PlanClaimDeclarations)
      (implementation : ImplEvidence), s.plan = some plan →
      plan.claimDeclarations = some declarations →
      hasCurrentPlanApprovalCertificateForState hashing s = true →
      s.implementation = some implementation → implementation.digest ≠ "" →
      CertifiedClaims hashing.hashText declarations
          (materializeApprovedPlanContractResult hashing inputs s).contract ∧
        ∃ reread, readContract (contractJson
            (materializeApprovedPlanContractResult hashing inputs s).contract).stringify =
              some reread ∧
          CertifiedClaims hashing.hashText declarations reread) ∧
    (Function.Injective hashing.hashText →
      ∀ (declaration : PlanClaimDeclaration) (claim : DeclaredClaim), claim.signalClass = .fact →
        materializedClaimDigest hashing.hashText claim =
          some (certifiedClaimDigest hashing.hashText declaration) →
        ∃ origin, claim.certifiedPlan = some origin ∧ Agrees declaration claim origin) := by
  constructor
  · intro s plan declarations implementation hplan hdeclared hcurrent himplemented hdigest
    obtain ⟨certificate, attempts, hclaims⟩ := materializeApprovedPlanContractResult_claims
      hashing inputs hplan hdeclared hcurrent himplemented hdigest
    have hcertified : CertifiedClaims hashing.hashText declarations
        (materializeApprovedPlanContractResult hashing inputs s).contract := by
      rw [CertifiedClaims, hclaims, List.forall₂_map_right_iff, List.forall₂_same]
      intro declaration _
      exact ⟨rfl, materializedClaimDigest_of_agrees hashing.hashText rfl rfl
        (agrees_materializeClaim hashing.hashText inputs s certificate attempts declaration)⟩
    refine ⟨hcertified, _, readContract_contractJson ?_, hcertified⟩
    rw [hclaims, List.forall_mem_map]
    exact fun declaration _ => ⟨⟨_, _, _, rfl⟩, rfl⟩
  · intro hinjective declaration claim _ hdigest
    exact ((materializedClaimDigest_eq_iff_agrees hinjective declaration claim).1 hdigest).2

/-- No report on disk verifies a profile. -/
def noReports : MaterializationInputs := ⟨fun _ => none, fun _ => false⟩

theorem certifiedClaimDigest_identifies_lockout :
    CertifiedClaims labelHashing.hashText [lockoutDeclaration]
        (materializeApprovedPlanContractResult labelHashing noReports lockoutSession).contract ∧
      ∃ origin, lockoutClaim.certifiedPlan = some origin ∧
        Agrees lockoutDeclaration lockoutClaim origin := by
  have hidentifies := certifiedClaimDigest_identifies labelHashing noReports
  refine ⟨(hidentifies.1 lockoutSession _ _ _ rfl rfl (by decide +kernel) rfl (by decide)).1,
    hidentifies.2 (fun _ _ heq => heq) lockoutDeclaration lockoutClaim rfl ?_⟩
  exact materializedClaimDigest_of_agrees _ rfl rfl
    { claimId := rfl
      statement := rfl
      critical := rfl
      claimScope := rfl
      authoritySectionId := rfl
      expectedCheckId := rfl
      expectedAssertion := rfl
      structuralSurface := rfl
      mutationProfile := rfl
      counterexampleRequirement := rfl
      coversRiskTriggers := List.Perm.refl _
      requiredEvidence := ⟨_, rfl, List.Perm.refl _, rfl⟩ }

end GovernedRuntime.ProofGraph.Canonical
