/-
The frozen policy (`src/config/policy-snapshot.ts`, `src/state/evidence-policy.ts`,
`src/shared/policy-idp-config.ts`): the executable policy and its schemas, the snapshot it
is frozen into, and the policy that a snapshot, in memory or read from disk, stands for.
-/
import GovernedRuntime.Activation.Revision
import GovernedRuntime.Shared.JsonSchema
import GovernedRuntime.State.Session
import Mathlib.Data.List.Infix

namespace GovernedRuntime.Config

open GovernedRuntime.Activation (isSha256Hex trim)
open GovernedRuntime.Audit
open GovernedRuntime.Library
open GovernedRuntime.Shared
open GovernedRuntime.State (ActorAssurance Enforcement RiskTriggerRule SpecificRiskTrigger)

/-! ### The executable policy -/

inductive PolicyMode
  | solo
  | team
  | teamCi
  | regulated
deriving DecidableEq, Repr

inductive TimestampMode
  | localOnly
  | ntpCheck
  | tsaCritical
deriving DecidableEq, Repr

inductive DiscoveryAction
  | allow
  | warn
  | block
deriving DecidableEq, Repr

inductive IdentityProviderMode
  | optional
  | required
deriving DecidableEq, Repr

inductive SigningAlgorithm
  | rs256
  | es256
deriving DecidableEq, Repr

inductive JwkFields
  | rsa (n e : String)
  | ec (x y crv : String)
deriving DecidableEq, Repr

inductive SigningKey
  | jwk (kid : String) (alg : SigningAlgorithm) (jwk : JwkFields)
  | pem (kid : String) (alg : SigningAlgorithm) (pem : String)
deriving DecidableEq, Repr

structure ClaimMapping where
  subjectClaim : String
  emailClaim : String
  nameClaim : String
deriving DecidableEq, Repr

structure IdpConfigBase where
  issuer : String
  audience : List String
  claimMapping : ClaimMapping
deriving DecidableEq, Repr

inductive IdpConfig (N : Type)
  | static (base : IdpConfigBase) (signingKeys : List SigningKey)
  | jwks (base : IdpConfigBase) (jwksPath jwksUri : Option String) (cacheTtlSeconds : N)

structure ReviewBudget (N : Type) where
  plan : N
  architecture : N
  implementation : N

structure ChallengeCounts (N : Type) where
  trivial : N
  standard : N
  highRisk : N

structure ChallengePolicy (N : Type) where
  version : String
  counts : ChallengeCounts N

structure TimestampAssurancePolicy (N : Type) where
  enabled : Bool
  mode : TimestampMode
  strict : Bool
  criticalEvents : List String
  tsaUrl : Option String
  trustAnchors : Option (List String)
  ntpServers : Option (List String)
  ntpDriftThresholdMs : N
  tsaTimeoutMs : N

structure AuditPolicy (N : Type) where
  emitTransitions : Bool
  emitToolCalls : Bool
  enableChainHash : Bool
  timestampAssurance : TimestampAssurancePolicy N

structure DiscoveryHealthPolicy where
  enforcement : Enforcement
  onDegraded : DiscoveryAction
  onDrift : DiscoveryAction
deriving DecidableEq, Repr

structure ValidationEvidencePolicy where
  enforcement : Enforcement
  allowNoCommands : Bool
deriving DecidableEq, Repr

structure FlowGuardPolicy (N : Type) where
  mode : PolicyMode
  requireHumanGates : Bool
  reviewBudget : ReviewBudget N
  maxIncoherentReviewerCaptureRetries : N
  maxReviewerAttempts : N
  allowSelfApproval : Bool
  challengePolicy : ChallengePolicy N
  minimumActorAssuranceForApproval : ActorAssurance
  audit : AuditPolicy N
  actorClassification : StringRecord
  identityProvider : Option (IdpConfig N)
  identityProviderMode : IdentityProviderMode
  enforceRiskClassification : Bool
  riskTriggerPaths : List RiskTriggerRule
  allowReducedCeremony : Bool
  discoveryHealth : DiscoveryHealthPolicy
  validationEvidence : ValidationEvidencePolicy

/-! ### Names -/

def PolicyMode.text : PolicyMode → String
  | .solo => "solo"
  | .team => "team"
  | .teamCi => "team-ci"
  | .regulated => "regulated"

def TimestampMode.text : TimestampMode → String
  | .localOnly => "local_only"
  | .ntpCheck => "ntp_check"
  | .tsaCritical => "tsa_critical"

def DiscoveryAction.text : DiscoveryAction → String
  | .allow => "allow"
  | .warn => "warn"
  | .block => "block"

def IdentityProviderMode.text : IdentityProviderMode → String
  | .optional => "optional"
  | .required => "required"

def SigningAlgorithm.text : SigningAlgorithm → String
  | .rs256 => "RS256"
  | .es256 => "ES256"

def enforcementText : Enforcement → String
  | .off => "off"
  | .advisory => "advisory"
  | .required => "required"

variable {N : Type} [JsonNumber N]

/-! ### Schemas -/

/-- The formats of strings that are checked by the schema library. -/
structure StringFormats where
  isDatetime : String → Bool
  isUrl : String → Bool

/-- `z.enum`: the values of a vocabulary by their texts. -/
def vocabulary {α : Type} (values : List α) (text : α → String)
    (hinjective : Function.Injective text) : JsonSchema N α :=
  JsonSchema.enumeration text (fun name => values.find? fun value => text value == name)
    (fun hfound => by simpa using List.find?_some hfound) hinjective

def policyModeSchema : JsonSchema N PolicyMode :=
  vocabulary [.solo, .team, .teamCi, .regulated] PolicyMode.text
    fun a b heq => by cases a <;> cases b <;> first | rfl | exact absurd heq (by decide)

def timestampModeSchema : JsonSchema N TimestampMode :=
  vocabulary [.localOnly, .ntpCheck, .tsaCritical] TimestampMode.text
    fun a b heq => by cases a <;> cases b <;> first | rfl | exact absurd heq (by decide)

def discoveryActionSchema : JsonSchema N DiscoveryAction :=
  vocabulary [.allow, .warn, .block] DiscoveryAction.text
    fun a b heq => by cases a <;> cases b <;> first | rfl | exact absurd heq (by decide)

def identityProviderModeSchema : JsonSchema N IdentityProviderMode :=
  vocabulary [.optional, .required] IdentityProviderMode.text
    fun a b heq => by cases a <;> cases b <;> first | rfl | exact absurd heq (by decide)

def signingAlgorithmSchema : JsonSchema N SigningAlgorithm :=
  vocabulary [.rs256, .es256] SigningAlgorithm.text
    fun a b heq => by cases a <;> cases b <;> first | rfl | exact absurd heq (by decide)

def enforcementSchema : JsonSchema N Enforcement :=
  vocabulary [.off, .advisory, .required] enforcementText
    fun a b heq => by cases a <;> cases b <;> first | rfl | exact absurd heq (by decide)

def actorAssuranceSchema : JsonSchema N ActorAssurance :=
  vocabulary [.bestEffort, .claimValidated, .idpVerified] ActorAssurance.name
    fun a b heq => by cases a <;> cases b <;> first | rfl | exact absurd heq (by decide)

def specificRiskTriggerSchema : JsonSchema N SpecificRiskTrigger :=
  vocabulary [.stateIntegrity, .auditAuthority, .identityBoundary, .approvalAuthority,
      .policyAuthority, .migration, .distributionIntegrity, .commandContract]
    SpecificRiskTrigger.name
    fun a b heq => by cases a <;> cases b <;> first | rfl | exact absurd heq (by decide)

def requiredText : JsonSchema N String := .refine .string (· != "")

/-- `z.number().int()` within bounds that start at zero or above. -/
def wholeNumber (test : Nat → Bool) : JsonSchema N N :=
  .refine .number fun value => (JsonNumber.natural value).any test

def jwkFieldsSchema : JsonSchema N JwkFields :=
  (JsonSchema.discriminatedUnion "kty" "RSA" "EC"
    ((Shape.field "n" requiredText).append <| .field "e" requiredText)
    ((Shape.field "x" requiredText).append <| (Shape.field "y" requiredText).append <|
      .field "crv" requiredText)).imap
    { toFun := Sum.elim (fun (n, e) => .rsa n e) fun (x, y, crv) => .ec x y crv
      invFun := fun fields =>
        match fields with
        | .rsa n e => .inl (n, e)
        | .ec x y crv => .inr (x, y, crv)
      left_inv := by rintro (_ | _) <;> rfl
      right_inv := by rintro (_ | _) <;> rfl }

/-- The algorithm of a JWK goes with its type. -/
def fitsAlgorithm : SigningKey → Bool
  | .jwk _ .rs256 (.rsa ..) | .jwk _ .es256 (.ec ..) | .pem .. => true
  | _ => false

def signingKeySchema : JsonSchema N SigningKey :=
  ((JsonSchema.discriminatedUnion "kind" "jwk" "pem"
    ((Shape.field "kid" requiredText).append <| (Shape.field "alg" signingAlgorithmSchema).append <|
      .field "jwk" jwkFieldsSchema)
    ((Shape.field "kid" requiredText).append <| (Shape.field "alg" signingAlgorithmSchema).append <|
      .field "pem" requiredText)).imap
    { toFun := Sum.elim (fun (kid, alg, jwk) => .jwk kid alg jwk)
        fun (kid, alg, pem) => .pem kid alg pem
      invFun := fun key =>
        match key with
        | .jwk kid alg jwk => .inl (kid, alg, jwk)
        | .pem kid alg pem => .inr (kid, alg, pem)
      left_inv := by rintro (_ | _) <;> rfl
      right_inv := by rintro (_ | _) <;> rfl }).refine fitsAlgorithm

def frozenClaimMappingSchema : JsonSchema N ClaimMapping :=
  (JsonSchema.strictObject <| (Shape.field "subjectClaim" requiredText).append <|
    (Shape.field "emailClaim" requiredText).append <| .field "nameClaim" requiredText).imap
    { toFun := fun (subjectClaim, emailClaim, nameClaim) => ⟨subjectClaim, emailClaim, nameClaim⟩
      invFun := fun mapping => (mapping.subjectClaim, mapping.emailClaim, mapping.nameClaim)
      left_inv := fun _ => rfl
      right_inv := fun _ => rfl }

def frozenIdpConfigBase : Shape N ["issuer", "audience", "claimMapping"] IdpConfigBase :=
  ((Shape.field "issuer" requiredText).append <|
    (Shape.field "audience" (requiredText.array.refine (!·.isEmpty))).append <|
    .field "claimMapping" frozenClaimMappingSchema).imap
    { toFun := fun (issuer, audience, claimMapping) => ⟨issuer, audience, claimMapping⟩
      invFun := fun base => (base.issuer, base.audience, base.claimMapping)
      left_inv := fun _ => rfl
      right_inv := fun _ => rfl }

/-- `refineJwksLocation`: exactly one location. -/
def hasOneLocation : IdpConfig N → Bool
  | .static .. => true
  | .jwks _ jwksPath jwksUri _ =>
      (jwksPath.any fun path => trim path != "") != jwksUri.any fun uri => trim uri != ""

def frozenIdpConfigSchema (formats : StringFormats) : JsonSchema N (IdpConfig N) :=
  ((JsonSchema.discriminatedUnion "mode" "static" "jwks"
    (frozenIdpConfigBase.append <|
      .field "signingKeys" (signingKeySchema.array.refine (!·.isEmpty)))
    (frozenIdpConfigBase.append <| (Shape.optional "jwksPath" requiredText).append <|
      (Shape.optional "jwksUri" (.refine .string formats.isUrl)).append <|
      .field "cacheTtlSeconds" (wholeNumber fun seconds => 1 ≤ seconds && seconds ≤ 3600))).imap
    { toFun := Sum.elim (fun (base, signingKeys) => .static base signingKeys)
        fun (base, jwksPath, jwksUri, cacheTtlSeconds) =>
          .jwks base jwksPath jwksUri cacheTtlSeconds
      invFun := fun config =>
        match config with
        | .static base signingKeys => .inl (base, signingKeys)
        | .jwks base jwksPath jwksUri cacheTtlSeconds =>
            .inr (base, jwksPath, jwksUri, cacheTtlSeconds)
      left_inv := by rintro (_ | _) <;> rfl
      right_inv := by rintro (_ | _) <;> rfl }).refine hasOneLocation

def reviewBudgetSchema : JsonSchema N (ReviewBudget N) :=
  (JsonSchema.strictObject <| (Shape.field "plan" (wholeNumber (0 < ·))).append <|
    (Shape.field "architecture" (wholeNumber (0 < ·))).append <|
    .field "implementation" (wholeNumber (0 < ·))).imap
    { toFun := fun (plan, architecture, implementation) => ⟨plan, architecture, implementation⟩
      invFun := fun budget => (budget.plan, budget.architecture, budget.implementation)
      left_inv := fun _ => rfl
      right_inv := fun _ => rfl }

def challengePolicyVersion : String := "challenge-policy.v1"

def challengePolicySchema : JsonSchema N (ChallengePolicy N) :=
  let counts := JsonSchema.strictObject <| (Shape.field "TRIVIAL" (wholeNumber (· == 0))).append <|
    (Shape.field "STANDARD" (wholeNumber (· == 1))).append <|
    .field "HIGH-RISK" (wholeNumber (· == 2))
  (JsonSchema.strictObject <|
    (Shape.field "version" (.refine .string (· == challengePolicyVersion))).append <|
    .field "counts" counts).imap
    { toFun := fun (version, trivial, standard, highRisk) => ⟨version, trivial, standard, highRisk⟩
      invFun := fun policy =>
        (policy.version, policy.counts.trivial, policy.counts.standard, policy.counts.highRisk)
      left_inv := fun _ => rfl
      right_inv := fun _ => rfl }

def timestampAssurancePolicySchema : JsonSchema N (TimestampAssurancePolicy N) :=
  (JsonSchema.strictObject <| (Shape.field "enabled" .boolean).append <|
    (Shape.field "mode" timestampModeSchema).append <| (Shape.field "strict" .boolean).append <|
    (Shape.field "criticalEvents" (.array .string)).append <|
    (Shape.optional "tsaUrl" .string).append <|
    (Shape.optional "trustAnchors" (.array .string)).append <|
    (Shape.optional "ntpServers" (.array .string)).append <|
    (Shape.field "ntpDriftThresholdMs" .number).append <| .field "tsaTimeoutMs" .number).imap
    { toFun := fun (enabled, mode, strict, criticalEvents, tsaUrl, trustAnchors, ntpServers,
          ntpDriftThresholdMs, tsaTimeoutMs) =>
        ⟨enabled, mode, strict, criticalEvents, tsaUrl, trustAnchors, ntpServers,
          ntpDriftThresholdMs, tsaTimeoutMs⟩
      invFun := fun tsa =>
        (tsa.enabled, tsa.mode, tsa.strict, tsa.criticalEvents, tsa.tsaUrl, tsa.trustAnchors,
          tsa.ntpServers, tsa.ntpDriftThresholdMs, tsa.tsaTimeoutMs)
      left_inv := fun _ => rfl
      right_inv := fun _ => rfl }

def auditPolicySchema : JsonSchema N (AuditPolicy N) :=
  (JsonSchema.strictObject <| (Shape.field "emitTransitions" .boolean).append <|
    (Shape.field "emitToolCalls" .boolean).append <|
    (Shape.field "enableChainHash" .boolean).append <|
    .field "timestampAssurance" timestampAssurancePolicySchema).imap
    { toFun := fun (emitTransitions, emitToolCalls, enableChainHash, timestampAssurance) =>
        ⟨emitTransitions, emitToolCalls, enableChainHash, timestampAssurance⟩
      invFun := fun audit => (audit.emitTransitions, audit.emitToolCalls, audit.enableChainHash,
        audit.timestampAssurance)
      left_inv := fun _ => rfl
      right_inv := fun _ => rfl }

def discoveryHealthPolicySchema : JsonSchema N DiscoveryHealthPolicy :=
  (JsonSchema.strictObject <| (Shape.field "enforcement" enforcementSchema).append <|
    (Shape.field "onDegraded" discoveryActionSchema).append <|
    .field "onDrift" discoveryActionSchema).imap
    { toFun := fun (enforcement, onDegraded, onDrift) => ⟨enforcement, onDegraded, onDrift⟩
      invFun := fun health => (health.enforcement, health.onDegraded, health.onDrift)
      left_inv := fun _ => rfl
      right_inv := fun _ => rfl }

def validationEvidencePolicySchema : JsonSchema N ValidationEvidencePolicy :=
  (JsonSchema.strictObject <| (Shape.field "enforcement" enforcementSchema).append <|
    .field "allowNoCommands" .boolean).imap
    { toFun := fun (enforcement, allowNoCommands) => ⟨enforcement, allowNoCommands⟩
      invFun := fun evidence => (evidence.enforcement, evidence.allowNoCommands)
      left_inv := fun _ => rfl
      right_inv := fun _ => rfl }

/-- `RepositoryGlob`: a relative glob in which `**` is a whole segment.  No part is empty,
so the glob is not, and it does not start with a slash. -/
def isRepositoryGlob (value : String) : Bool :=
  (codeUnits value).length ≤ 200 &&
    value.toList.all (fun c => c.isAlphanum || ['_', '.', '*', '-', '/'].contains c) &&
    (value.toList.splitOn '/').all fun part =>
      !part.isEmpty && part != ['.'] && part != ['.', '.'] &&
        (!decide (['*', '*'] <:+: part) || part == ['*', '*'])

def riskTriggerPathsSchema : JsonSchema N (List RiskTriggerRule) :=
  let rule := (JsonSchema.strictObject <|
      (Shape.field "trigger" specificRiskTriggerSchema).append <|
      .field "pattern" (.refine .string isRepositoryGlob)).imap
    { toFun := fun (trigger, pattern) => ⟨trigger, pattern⟩
      invFun := fun rule : RiskTriggerRule => (rule.trigger, rule.pattern)
      left_inv := fun _ => rfl
      right_inv := fun _ => rfl }
  rule.array.refine fun rules => rules.length ≤ 100

/-- The fields of the executable policy. -/
def flowGuardPolicyShape (formats : StringFormats) : Shape N
    ["mode", "requireHumanGates", "reviewBudget", "maxIncoherentReviewerCaptureRetries",
      "maxReviewerAttempts", "allowSelfApproval", "challengePolicy",
      "minimumActorAssuranceForApproval", "audit", "actorClassification", "identityProvider",
      "identityProviderMode", "enforceRiskClassification", "riskTriggerPaths",
      "allowReducedCeremony", "discoveryHealth", "validationEvidence"] (FlowGuardPolicy N) :=
  ((Shape.field "mode" policyModeSchema).append <|
    (Shape.field "requireHumanGates" .boolean).append <|
    (Shape.field "reviewBudget" reviewBudgetSchema).append <|
    (Shape.field "maxIncoherentReviewerCaptureRetries" (wholeNumber fun _ => true)).append <|
    (Shape.field "maxReviewerAttempts" (wholeNumber (· ≤ 5))).append <|
    (Shape.field "allowSelfApproval" .boolean).append <|
    (Shape.field "challengePolicy" challengePolicySchema).append <|
    (Shape.field "minimumActorAssuranceForApproval" actorAssuranceSchema).append <|
    (Shape.field "audit" auditPolicySchema).append <|
    (Shape.field "actorClassification" .record).append <|
    (Shape.optional "identityProvider" (frozenIdpConfigSchema formats)).append <|
    (Shape.field "identityProviderMode" identityProviderModeSchema).append <|
    (Shape.field "enforceRiskClassification" .boolean).append <|
    (Shape.field "riskTriggerPaths" riskTriggerPathsSchema).append <|
    (Shape.field "allowReducedCeremony" .boolean).append <|
    (Shape.field "discoveryHealth" discoveryHealthPolicySchema).append <|
    .field "validationEvidence" validationEvidencePolicySchema).imap
    { toFun := fun (mode, requireHumanGates, reviewBudget, maxIncoherentReviewerCaptureRetries,
          maxReviewerAttempts, allowSelfApproval, challengePolicy,
          minimumActorAssuranceForApproval, audit, actorClassification, identityProvider,
          identityProviderMode, enforceRiskClassification, riskTriggerPaths,
          allowReducedCeremony, discoveryHealth, validationEvidence) =>
        ⟨mode, requireHumanGates, reviewBudget, maxIncoherentReviewerCaptureRetries,
          maxReviewerAttempts, allowSelfApproval, challengePolicy,
          minimumActorAssuranceForApproval, audit, actorClassification, identityProvider,
          identityProviderMode, enforceRiskClassification, riskTriggerPaths,
          allowReducedCeremony, discoveryHealth, validationEvidence⟩
      invFun := fun policy =>
        (policy.mode, policy.requireHumanGates, policy.reviewBudget,
          policy.maxIncoherentReviewerCaptureRetries, policy.maxReviewerAttempts,
          policy.allowSelfApproval, policy.challengePolicy,
          policy.minimumActorAssuranceForApproval, policy.audit, policy.actorClassification,
          policy.identityProvider, policy.identityProviderMode, policy.enforceRiskClassification,
          policy.riskTriggerPaths, policy.allowReducedCeremony, policy.discoveryHealth,
          policy.validationEvidence)
      left_inv := fun _ => rfl
      right_inv := fun _ => rfl }

/-! ### The snapshot -/

inductive PolicySource
  | explicit
  | central
  | repo
  | default
deriving DecidableEq, Repr

inductive EffectiveGateBehavior
  | autoApprove
  | humanGated
deriving DecidableEq, Repr

inductive CentralMinimumMode
  | solo
  | team
  | regulated
deriving DecidableEq, Repr

/-- How the policy was resolved, which is no executable policy. -/
structure PolicyResolutionProvenance where
  source : Option PolicySource
  degradedReason : Option String
  resolutionReason : Option String
  centralMinimumMode : Option CentralMinimumMode
  policyDigest : Option String
  policyVersion : Option String
  policyPathHint : Option String
deriving DecidableEq, Repr

/-- The fields of a snapshot that are no executable policy. -/
structure PolicyFreeze extends PolicyResolutionProvenance where
  hash : String
  hashVersion : String
  resolvedAt : String
  requestedMode : PolicyMode
  effectiveGateBehavior : EffectiveGateBehavior
deriving DecidableEq, Repr

structure PolicySnapshot (N : Type) extends FlowGuardPolicy N, PolicyFreeze

def PolicySource.text : PolicySource → String
  | .explicit => "explicit"
  | .central => "central"
  | .repo => "repo"
  | .default => "default"

def EffectiveGateBehavior.text : EffectiveGateBehavior → String
  | .autoApprove => "auto_approve"
  | .humanGated => "human_gated"

def CentralMinimumMode.text : CentralMinimumMode → String
  | .solo => "solo"
  | .team => "team"
  | .regulated => "regulated"

def policySourceSchema : JsonSchema N PolicySource :=
  vocabulary [.explicit, .central, .repo, .default] PolicySource.text
    fun a b heq => by cases a <;> cases b <;> first | rfl | exact absurd heq (by decide)

def effectiveGateBehaviorSchema : JsonSchema N EffectiveGateBehavior :=
  vocabulary [.autoApprove, .humanGated] EffectiveGateBehavior.text
    fun a b heq => by cases a <;> cases b <;> first | rfl | exact absurd heq (by decide)

def centralMinimumModeSchema : JsonSchema N CentralMinimumMode :=
  vocabulary [.solo, .team, .regulated] CentralMinimumMode.text
    fun a b heq => by cases a <;> cases b <;> first | rfl | exact absurd heq (by decide)

def policyDigestVersion : String := "policy-digest.v4"

def policyFreezeShape (formats : StringFormats) : Shape N
    ["hash", "hashVersion", "resolvedAt", "requestedMode", "source", "effectiveGateBehavior",
      "degradedReason", "resolutionReason", "centralMinimumMode", "policyDigest",
      "policyVersion", "policyPathHint"] PolicyFreeze :=
  ((Shape.field "hash" (.refine .string isSha256Hex)).append <|
    (Shape.field "hashVersion" (.refine .string (· == policyDigestVersion))).append <|
    (Shape.field "resolvedAt" (.refine .string formats.isDatetime)).append <|
    (Shape.field "requestedMode" policyModeSchema).append <|
    (Shape.optional "source" policySourceSchema).append <|
    (Shape.field "effectiveGateBehavior" effectiveGateBehaviorSchema).append <|
    (Shape.optional "degradedReason" .string).append <|
    (Shape.optional "resolutionReason" .string).append <|
    (Shape.optional "centralMinimumMode" centralMinimumModeSchema).append <|
    (Shape.optional "policyDigest" .string).append <|
    (Shape.optional "policyVersion" .string).append <| .optional "policyPathHint" .string).imap
    { toFun := fun (hash, hashVersion, resolvedAt, requestedMode, source, effectiveGateBehavior,
          degradedReason, resolutionReason, centralMinimumMode, policyDigest, policyVersion,
          policyPathHint) =>
        { source, degradedReason, resolutionReason, centralMinimumMode, policyDigest,
          policyVersion, policyPathHint, hash, hashVersion, resolvedAt, requestedMode,
          effectiveGateBehavior }
      invFun := fun freeze =>
        (freeze.hash, freeze.hashVersion, freeze.resolvedAt, freeze.requestedMode, freeze.source,
          freeze.effectiveGateBehavior, freeze.degradedReason, freeze.resolutionReason,
          freeze.centralMinimumMode, freeze.policyDigest, freeze.policyVersion,
          freeze.policyPathHint)
      left_inv := fun _ => rfl
      right_inv := fun _ => rfl }

/-- `PolicySnapshotSchema`. -/
def policySnapshotSchema (formats : StringFormats) : JsonSchema N (PolicySnapshot N) :=
  (JsonSchema.strictObject <|
    (policyFreezeShape formats).append (flowGuardPolicyShape formats)).imap
    { toFun := fun (freeze, policy) => { toFlowGuardPolicy := policy, toPolicyFreeze := freeze }
      invFun := fun snapshot => (snapshot.toPolicyFreeze, snapshot.toFlowGuardPolicy)
      left_inv := fun _ => rfl
      right_inv := fun _ => rfl }

/-! ### Freezing a policy -/

/-- `canonicalJsonStringify(policy)`; what is written does not depend on the formats. -/
def FlowGuardPolicy.canonicalText (policy : FlowGuardPolicy N) : String :=
  let formats : StringFormats := ⟨fun _ => true, fun _ => true⟩
  canonicalJsonStringify (.object ((flowGuardPolicyShape formats).write policy))

/-- The one executable-content projection. -/
def policyContentFromSnapshot (snapshot : PolicySnapshot N) : FlowGuardPolicy N :=
  let tsa := snapshot.audit.timestampAssurance
  { mode := snapshot.mode
    requireHumanGates := snapshot.requireHumanGates
    reviewBudget := snapshot.reviewBudget
    maxIncoherentReviewerCaptureRetries := snapshot.maxIncoherentReviewerCaptureRetries
    maxReviewerAttempts := snapshot.maxReviewerAttempts
    allowSelfApproval := snapshot.allowSelfApproval
    challengePolicy := snapshot.challengePolicy
    minimumActorAssuranceForApproval := snapshot.minimumActorAssuranceForApproval
    audit :=
      { emitTransitions := snapshot.audit.emitTransitions
        emitToolCalls := snapshot.audit.emitToolCalls
        enableChainHash := snapshot.audit.enableChainHash
        timestampAssurance :=
          { enabled := tsa.enabled
            mode := tsa.mode
            strict := tsa.strict
            criticalEvents := tsa.criticalEvents
            ntpDriftThresholdMs := tsa.ntpDriftThresholdMs
            tsaTimeoutMs := tsa.tsaTimeoutMs
            tsaUrl := tsa.tsaUrl
            trustAnchors := tsa.trustAnchors
            ntpServers := tsa.ntpServers } }
    actorClassification := snapshot.actorClassification
    identityProvider := snapshot.identityProvider
    identityProviderMode := snapshot.identityProviderMode
    enforceRiskClassification := snapshot.enforceRiskClassification
    riskTriggerPaths := snapshot.riskTriggerPaths
    allowReducedCeremony := snapshot.allowReducedCeremony
    discoveryHealth := snapshot.discoveryHealth
    validationEvidence := snapshot.validationEvidence }

def computePolicySnapshotHash (hashText : String → String) (snapshot : PolicySnapshot N) : String :=
  hashText (policyContentFromSnapshot snapshot).canonicalText

def resolvePolicyFromSnapshot (snapshot : PolicySnapshot N) : FlowGuardPolicy N :=
  policyContentFromSnapshot snapshot

structure PolicyConfigurationError where
  code : String
  message : String
  received : Option String
deriving DecidableEq, Repr

def validatePolicyDigest (hash : String) : Except PolicyConfigurationError String :=
  if isSha256Hex hash then .ok hash
  else .error
    { code := "INVALID_POLICY_DIGEST"
      message := "Policy digest must be a 64-character lowercase SHA-256 hex string."
      received := some hash }

def buildAuditSection (audit : AuditPolicy N) : AuditPolicy N :=
  { emitTransitions := audit.emitTransitions
    emitToolCalls := audit.emitToolCalls
    enableChainHash := audit.enableChainHash
    timestampAssurance :=
      { enabled := audit.timestampAssurance.enabled
        mode := audit.timestampAssurance.mode
        strict := audit.timestampAssurance.strict
        criticalEvents := audit.timestampAssurance.criticalEvents
        tsaUrl := truthy audit.timestampAssurance.tsaUrl
        -- An array is truthy, an empty one too.
        trustAnchors := audit.timestampAssurance.trustAnchors
        ntpServers := audit.timestampAssurance.ntpServers
        ntpDriftThresholdMs := audit.timestampAssurance.ntpDriftThresholdMs
        tsaTimeoutMs := audit.timestampAssurance.tsaTimeoutMs } }

/-- The resolution that a policy is frozen with. -/
structure PolicyResolution extends PolicyResolutionProvenance where
  requestedMode : PolicyMode
  effectiveGateBehavior : EffectiveGateBehavior
deriving DecidableEq, Repr

def buildResolutionProvenance (resolution : Option PolicyResolution) :
    PolicyResolutionProvenance :=
  { source := resolution.bind (·.source)
    degradedReason := truthy (resolution.bind (·.degradedReason))
    resolutionReason := truthy (resolution.bind (·.resolutionReason))
    centralMinimumMode := resolution.bind (·.centralMinimumMode)
    policyDigest := truthy (resolution.bind (·.policyDigest))
    policyVersion := truthy (resolution.bind (·.policyVersion))
    policyPathHint := truthy (resolution.bind (·.policyPathHint)) }

/-- The snapshot before it is checked against its hash. -/
def snapshotOf (policy : FlowGuardPolicy N) (resolvedAt hash : String)
    (resolution : Option PolicyResolution) : PolicySnapshot N :=
  let fallbackGate : EffectiveGateBehavior :=
    if policy.requireHumanGates then .humanGated else .autoApprove
  { toPolicyResolutionProvenance := buildResolutionProvenance resolution
    mode := policy.mode
    hash := hash
    hashVersion := policyDigestVersion
    resolvedAt := resolvedAt
    requestedMode := resolution.elim policy.mode (·.requestedMode)
    effectiveGateBehavior := resolution.elim fallbackGate (·.effectiveGateBehavior)
    requireHumanGates := policy.requireHumanGates
    reviewBudget := policy.reviewBudget
    maxIncoherentReviewerCaptureRetries := policy.maxIncoherentReviewerCaptureRetries
    maxReviewerAttempts := policy.maxReviewerAttempts
    allowSelfApproval := policy.allowSelfApproval
    audit := buildAuditSection policy.audit
    actorClassification := policy.actorClassification
    minimumActorAssuranceForApproval := policy.minimumActorAssuranceForApproval
    identityProvider := policy.identityProvider
    identityProviderMode := policy.identityProviderMode
    challengePolicy := policy.challengePolicy
    enforceRiskClassification := policy.enforceRiskClassification
    riskTriggerPaths := policy.riskTriggerPaths
    allowReducedCeremony := policy.allowReducedCeremony
    discoveryHealth := policy.discoveryHealth
    validationEvidence := policy.validationEvidence }

def createPolicySnapshot (hashText : String → String) (policy : FlowGuardPolicy N)
    (resolvedAt : String) (digestFn : String → String) (resolution : Option PolicyResolution) :
    Except PolicyConfigurationError (PolicySnapshot N) := do
  let hash ← validatePolicyDigest (digestFn policy.canonicalText)
  let snapshot := snapshotOf policy resolvedAt hash resolution
  if computePolicySnapshotHash hashText snapshot != snapshot.hash then
    .error
      { code := "POLICY_SNAPSHOT_INTEGRITY_MISMATCH"
        message := "Policy snapshot creation changed executable policy content."
        received := none }
  else .ok snapshot

/-! ### Snapshots on disk -/

def persistedText (formats : StringFormats) (snapshot : PolicySnapshot N) : String :=
  ((policySnapshotSchema formats).write snapshot).stringify

/-- The snapshot that the schema reads from a text. -/
def reread (formats : StringFormats) (text : String) : Option (PolicySnapshot N) :=
  (Json.parse text).bind (policySnapshotSchema formats).read

inductive PersistedSnapshotAssessment (N : Type)
  | compatible (snapshot : PolicySnapshot N)
  | integrityMismatch
  | invalid

/-- What `assessPersistedStateDocument` makes of the frozen policy. -/
def assessPersistedSnapshot (formats : StringFormats) (hashText : String → String)
    (text : String) : PersistedSnapshotAssessment N :=
  match reread formats text with
  | some snapshot =>
      if computePolicySnapshotHash hashText snapshot != snapshot.hash then .integrityMismatch
      else .compatible snapshot
  | none => .invalid

/-! ### Nothing is lost -/

section Laws

variable {formats : StringFormats} {hashText digestFn : String → String}
  {policy other : FlowGuardPolicy N} {snapshot kept : PolicySnapshot N} {resolvedAt text : String}
  {resolution : Option PolicyResolution}

theorem canonicalText_eq_iff (formats : StringFormats) :
    policy.canonicalText = other.canonicalText ↔
      canonicalForm (.object ((flowGuardPolicyShape formats).write policy)) =
        canonicalForm (.object ((flowGuardPolicyShape formats).write other)) :=
  canonicalJsonStringify_eq_iff
    ((JsonSchema.strictObject (flowGuardPolicyShape formats)).distinct_write policy)
    ((JsonSchema.strictObject (flowGuardPolicyShape formats)).distinct_write other)

omit [JsonNumber N] in
theorem resolvePolicyFromSnapshot_eq (snapshot : PolicySnapshot N) :
    resolvePolicyFromSnapshot snapshot = snapshot.toFlowGuardPolicy :=
  rfl

/-- The policy without an empty URL of the time stamp authority. -/
def withoutEmptyTsaUrl (policy : FlowGuardPolicy N) : FlowGuardPolicy N :=
  { policy with audit := buildAuditSection policy.audit }

theorem of_createPolicySnapshot
    (hcreate : createPolicySnapshot hashText policy resolvedAt digestFn resolution = .ok snapshot) :
    resolvePolicyFromSnapshot snapshot = withoutEmptyTsaUrl policy ∧
      snapshot.hash = digestFn policy.canonicalText ∧
      computePolicySnapshotHash hashText snapshot = snapshot.hash := by
  rw [createPolicySnapshot, validatePolicyDigest] at hcreate
  split_ifs at hcreate with hdigest
  · change (if _ then _ else _) = _ at hcreate
    split_ifs at hcreate with hsame
    cases hcreate
    rw [Bool.not_eq_true, bne_eq_false_iff_eq] at hsame
    exact ⟨rfl, rfl, hsame⟩
  · cases hcreate

theorem createPolicySnapshot_eq_ok {hash : String} (hdigest : digestFn policy.canonicalText = hash)
    (hhex : isSha256Hex hash = true)
    (hsame : hashText (withoutEmptyTsaUrl policy).canonicalText = hash) :
    createPolicySnapshot hashText policy resolvedAt digestFn resolution =
      .ok (snapshotOf policy resolvedAt hash resolution) := by
  have hcontent : computePolicySnapshotHash hashText
      (snapshotOf policy resolvedAt hash resolution) = hash := hsame
  have hintegrity : ¬(computePolicySnapshotHash hashText
      (snapshotOf policy resolvedAt hash resolution) != hash) = true := by
    rw [hcontent, bne_self_eq_false]
    exact Bool.false_ne_true
  rw [createPolicySnapshot, hdigest, validatePolicyDigest, if_pos hhex]
  exact if_neg hintegrity

theorem canonicalText_resolve (hinjective : Function.Injective hashText)
    (hcreate : createPolicySnapshot hashText policy resolvedAt hashText resolution = .ok snapshot) :
    (resolvePolicyFromSnapshot snapshot).canonicalText = policy.canonicalText := by
  obtain ⟨-, hhash, hintegrity⟩ := of_createPolicySnapshot hcreate
  exact hinjective (hintegrity.trans hhash)

theorem write_policySnapshot (snapshot : PolicySnapshot N) :
    (policySnapshotSchema formats).write snapshot =
      .object (((policyFreezeShape formats).append (flowGuardPolicyShape formats)).write
        (snapshot.toPolicyFreeze, snapshot.toFlowGuardPolicy)) :=
  rfl

/-- Snapshots that show the same have one policy. -/
theorem canonicalText_of_snapshot
    (heq : canonicalForm ((policySnapshotSchema formats).write kept) =
      canonicalForm ((policySnapshotSchema formats).write snapshot)) :
    (resolvePolicyFromSnapshot kept).canonicalText =
      (resolvePolicyFromSnapshot snapshot).canonicalText := by
  rw [write_policySnapshot, write_policySnapshot] at heq
  rw [resolvePolicyFromSnapshot_eq, resolvePolicyFromSnapshot_eq, canonicalText_eq_iff formats]
  have hpolicy := Shape.canonical_append_right heq
  exact hpolicy

theorem hash_of_snapshot
    (heq : canonicalForm ((policySnapshotSchema formats).write kept) =
      canonicalForm ((policySnapshotSchema formats).write snapshot)) :
    kept.hash = snapshot.hash := by
  rw [write_policySnapshot, write_policySnapshot] at heq
  have hfreeze := Shape.canonical_append_left heq
  have hlookup : ∀ freeze : PolicyFreeze,
      ((policyFreezeShape formats : Shape N _ _).write freeze).lookup "hash" =
        some (.string freeze.hash) := fun _ => List.lookup_cons_self
  rw [Shape.canonicalForm_write_eq_iff] at hfreeze
  have hform := hfreeze "hash" List.mem_cons_self
  rw [hlookup, hlookup] at hform
  exact Json.string.inj (Option.some_inj.1 hform)

theorem reread_persistedText (snapshot : PolicySnapshot N) :
    reread formats (persistedText formats snapshot) =
      (policySnapshotSchema formats).read ((policySnapshotSchema formats).write snapshot).printed := by
  rw [reread, persistedText, Json.parse_stringify ((policySnapshotSchema formats).distinct_write _)]
  rfl

theorem same_of_reread
    (hreread : reread formats (persistedText formats snapshot) = some kept) :
    (resolvePolicyFromSnapshot kept).canonicalText =
        (resolvePolicyFromSnapshot snapshot).canonicalText ∧ kept.hash = snapshot.hash := by
  rw [reread_persistedText] at hreread
  have hform := (policySnapshotSchema formats).canonical_of_read hreread
  exact ⟨canonicalText_of_snapshot hform, hash_of_snapshot hform⟩

theorem of_assessPersistedSnapshot
    (haccepted : assessPersistedSnapshot formats hashText text = .compatible snapshot) :
    (∃ value, (policySnapshotSchema formats).read value = some snapshot) ∧
      computePolicySnapshotHash hashText snapshot = snapshot.hash := by
  rw [assessPersistedSnapshot] at haccepted
  split at haccepted
  case h_1 found hfound =>
    split_ifs at haccepted with hsame
    cases haccepted
    obtain ⟨value, -, hread⟩ := Option.bind_eq_some_iff.1 hfound
    rw [Bool.not_eq_true, bne_eq_false_iff_eq] at hsame
    exact ⟨⟨value, hread⟩, hsame⟩
  case h_2 => cases haccepted

/-- What the schema reads of a snapshot reads its policy on its own. -/
theorem exists_read_policy {value : Json N}
    (hread : (policySnapshotSchema formats).read value = some snapshot) :
    ∃ fields, (flowGuardPolicyShape formats).read fields = some snapshot.toFlowGuardPolicy := by
  obtain ⟨⟨freeze, policy⟩, hpair, rfl⟩ := Option.map_eq_some_iff.1 hread
  cases value with
  | object fields =>
      obtain ⟨-, hshape⟩ := Option.ite_none_right_eq_some.1 hpair
      obtain ⟨_, -, hrest⟩ := Option.bind_eq_some_iff.1 hshape
      obtain ⟨found, hfound, heq⟩ := Option.map_eq_some_iff.1 hrest
      cases heq
      exact ⟨fields, hfound⟩
  | _ => cases hpair

/-- Policies that were read are equal when their canonical texts are. -/
theorem eq_of_canonicalText {fields others : List (String × Json N)}
    (hread : (flowGuardPolicyShape formats).read fields = some policy)
    (hread' : (flowGuardPolicyShape formats).read others = some other)
    (heq : policy.canonicalText = other.canonicalText) : policy = other := by
  rw [canonicalText_eq_iff formats, Shape.canonicalForm_write_eq_iff] at heq
  exact (flowGuardPolicyShape formats).eq_of_canonical hread hread' heq

end Laws

/-- Freezing loses nothing, also across the disk, and one stored hash is one policy. -/
structure FrozenPolicyLaws (N : Type) [JsonNumber N] (formats : StringFormats)
    (hashText : String → String) : Prop where
  frozen : ∀ (policy : FlowGuardPolicy N) resolvedAt resolution (snapshot : PolicySnapshot N),
    createPolicySnapshot hashText policy resolvedAt hashText resolution = .ok snapshot →
      (resolvePolicyFromSnapshot snapshot).canonicalText = policy.canonicalText
  /-- What the schema accepts in memory it reads back, and whatever it reads back has the
  policy and passes the check of the boundary. -/
  persisted : ∀ (policy : FlowGuardPolicy N) resolvedAt resolution (snapshot : PolicySnapshot N),
    createPolicySnapshot hashText policy resolvedAt hashText resolution = .ok snapshot →
      (∀ kept : PolicySnapshot N, (policySnapshotSchema formats).read
            ((policySnapshotSchema formats).write snapshot) = some kept →
          reread formats (persistedText formats snapshot) = some kept) ∧
        ∀ kept : PolicySnapshot N, reread formats (persistedText formats snapshot) = some kept →
          (resolvePolicyFromSnapshot kept).canonicalText = policy.canonicalText ∧
            assessPersistedSnapshot formats hashText (persistedText formats snapshot) =
              .compatible kept
  inMemory : ∀ first second : PolicySnapshot N,
    computePolicySnapshotHash hashText first = computePolicySnapshotHash hashText second →
      (resolvePolicyFromSnapshot first).canonicalText =
        (resolvePolicyFromSnapshot second).canonicalText
  tamperEvident : ∀ (text changed : String) (first second : PolicySnapshot N),
    assessPersistedSnapshot formats hashText text = .compatible first →
      assessPersistedSnapshot formats hashText changed = .compatible second →
        first.hash = second.hash →
          resolvePolicyFromSnapshot first = resolvePolicyFromSnapshot second

theorem frozenPolicyLaws (formats : StringFormats) (hashText : String → String)
    (hinjective : Function.Injective hashText) : FrozenPolicyLaws N formats hashText := by
  refine ⟨?_, ?_, fun _ _ heq => hinjective heq, ?_⟩
  · intro policy resolvedAt resolution snapshot hcreate
    exact canonicalText_resolve hinjective hcreate
  · intro policy resolvedAt resolution snapshot hcreate
    constructor
    · intro kept haccepted
      rw [reread_persistedText]
      exact (policySnapshotSchema formats).read_printed haccepted
    · intro kept hreread
      obtain ⟨hpolicy, hhash⟩ := same_of_reread hreread
      have hintegrity : computePolicySnapshotHash hashText kept = kept.hash := by
        rw [hhash, ← (of_createPolicySnapshot hcreate).2.2]
        exact congrArg hashText hpolicy
      constructor
      · exact hpolicy.trans (canonicalText_resolve hinjective hcreate)
      · rw [assessPersistedSnapshot, hreread]
        exact if_neg (by rw [hintegrity, bne_self_eq_false]; exact Bool.false_ne_true)
  · intro text changed first second hfirst hsecond hhash
    obtain ⟨⟨_, hread⟩, hintegrity⟩ := of_assessPersistedSnapshot hfirst
    obtain ⟨⟨_, hread'⟩, hintegrity'⟩ := of_assessPersistedSnapshot hsecond
    obtain ⟨_, hfields⟩ := exists_read_policy hread
    obtain ⟨_, hothers⟩ := exists_read_policy hread'
    rw [hhash, ← hintegrity'] at hintegrity
    exact eq_of_canonicalText hfields hothers (hinjective hintegrity)

/-- A regulated policy with an identity provider, a time-stamping authority and paths that
trigger a review of risks. -/
def regulatedPolicy : FlowGuardPolicy Nat :=
  { mode := .regulated
    requireHumanGates := true
    reviewBudget := ⟨3, 3, 3⟩
    maxIncoherentReviewerCaptureRetries := 1
    maxReviewerAttempts := 1
    allowSelfApproval := false
    challengePolicy := ⟨challengePolicyVersion, ⟨0, 1, 2⟩⟩
    minimumActorAssuranceForApproval := .idpVerified
    audit := ⟨true, true, true, true, .tsaCritical, true, ["decision", "lifecycle"],
      some "https://tsa.example.com", some ["tsa-root"], some ["pool.ntp.org"], 30000, 10000⟩
    actorClassification := ⟨[("flowguard_decision", "system")], by decide, by decide⟩
    identityProvider := some (.static
      ⟨"https://idp.example.com", ["flowguard"], ⟨"sub", "email", "name"⟩⟩
      [.pem "key-1" .es256 "-----BEGIN PUBLIC KEY-----"])
    identityProviderMode := .required
    enforceRiskClassification := true
    riskTriggerPaths := [⟨.identityBoundary, "src/auth/**"⟩]
    allowReducedCeremony := false
    discoveryHealth := ⟨.required, .allow, .allow⟩
    validationEvidence := ⟨.required, false⟩ }

/-- A hash that gives the policy's text a digest and is injective. -/
theorem frozenPolicyLaws_regulatedPolicy :
    ∃ hashText : String → String, ∃ snapshot,
      createPolicySnapshot hashText regulatedPolicy "2026-01-01T00:00:00.000Z" hashText none =
          .ok snapshot ∧
        FrozenPolicyLaws Nat ⟨fun _ => true, fun _ => true⟩ hashText := by
  have hswap : ∀ text digest : String, ∃ hashText : String → String,
      Function.Injective hashText ∧ hashText text = digest := fun text digest =>
    ⟨Equiv.swap text digest, (Equiv.swap text digest).injective, Equiv.swap_apply_left _ _⟩
  obtain ⟨hashText, hinjective, hhash⟩ := hswap regulatedPolicy.canonicalText
    (String.ofList (List.replicate 64 'a'))
  have hurl : withoutEmptyTsaUrl regulatedPolicy = regulatedPolicy := rfl
  have hsame : hashText (withoutEmptyTsaUrl regulatedPolicy).canonicalText =
      String.ofList (List.replicate 64 'a') := by
    rw [hurl]
    exact hhash
  exact ⟨hashText, _, createPolicySnapshot_eq_ok hhash (by decide) hsame,
    frozenPolicyLaws _ hashText hinjective⟩

end GovernedRuntime.Config
