/-
The canonical text a certified claim is hashed from
(`src/state/proofgraph-claim-certification.ts`), on the records themselves: a
declaration is spread whole, a materialised claim is rebuilt field by field.
-/
import GovernedRuntime.Audit.DirectWrite
import GovernedRuntime.ProofGraph.Approval
import Mathlib.Data.List.Perm.Basic

namespace GovernedRuntime.ProofGraph.Canonical

open GovernedRuntime.Audit GovernedRuntime.Library GovernedRuntime.State

/-! ### Records -/

/-- The own properties of an object; `none` is a property that is `undefined`. -/
abbrev Properties : Type := List (String × Option (Json Nat))

/-- `{ ...record, ...more }` -/
def spread (record more : Properties) : Properties :=
  record.map (fun field => (field.1, (more.lookup field.1).getD field.2)) ++
    more.filter fun field => !(keysOf record).contains field.1

/-- The properties that serialization keeps. -/
def defined (record : Properties) : List (String × Json Nat) :=
  record.filterMap fun field => field.2.map (field.1, ·)

/-- `record[key]` -/
def property (record : Properties) (key : String) : Option (Json Nat) :=
  (record.lookup key).join

/-- The texts of an array of strings. -/
def textsOf : Json Nat → List String
  | .array items => items.filterMap Json.text?
  | _ => []

/-- `[...(texts ?? [])].sort()` -/
def sortedTexts (texts : Option (Json Nat)) : Json Nat :=
  .array ((sortTexts ((texts.map textsOf).getD [])).map .string)

/-! ### Values -/

def claimScopeName : ClaimScope → String
  | .specificBehavior => "specific_behavior"
  | .suite => "suite"

def providerKindName : ProofProviderKind → String
  | .executedTest => "executed_test"
  | .structuralAssertion => "structural_assertion"
  | .schemaCompare => "schema_compare"
  | .faultInjection => "fault_injection"

def textArray (texts : List String) : Json Nat := .array (texts.map .string)

def assertionJson (assertion : AssertionIdentity) : Json Nat :=
  .object [("providerId", .string assertion.providerId), ("localId", .string assertion.localId)]

def counterexampleJson : CounterexampleRequirement → Json Nat
  | .assertion checkId assertion =>
      .object [("kind", .string "assertion"), ("checkId", .string checkId),
        ("assertion", assertionJson assertion)]
  | .aggregateCheck checkId candidateId =>
      .object (defined [("kind", some (.string "aggregate_check")),
        ("checkId", some (.string checkId)), ("candidateId", candidateId.map .string)])

def riskTriggersJson (triggers : List SpecificRiskTrigger) : Json Nat :=
  textArray (triggers.map SpecificRiskTrigger.name)

def requiredEvidenceJson (required : RequiredEvidence) : Json Nat :=
  .object [("positive", textArray (required.positive.map providerKindName)),
    ("adversarial", textArray (List.replicate required.adversarial "counterexample"))]

/-! ### Digests -/

/-- What `semanticDigest` writes over the properties of the claim. -/
def semanticOverrides (claim : Properties) : Properties :=
  [("statement", property claim "statement"),
    ("counterexampleRequirement",
      some ((property claim "counterexampleRequirement").getD .null))] ++
  (match property claim "expectedAssertion" with
    | some assertion => [("expectedAssertion", some assertion)]
    | none => []) ++
  [("structuralSurface", some ((property claim "structuralSurface").getD .null)),
    ("mutationProfile", some ((property claim "mutationProfile").getD .null)),
    ("coversRiskTriggers", some (sortedTexts (property claim "coversRiskTriggers"))),
    ("requiredEvidence", some (match property claim "requiredEvidence" with
      | none => .null
      | some required =>
          .object [("positive", sortedTexts (required.get? "positive")),
            ("adversarial", sortedTexts (required.get? "adversarial"))]))]

/-- The object `semanticDigest` hashes. -/
def semanticRecord (claim : Properties) : Properties := spread claim (semanticOverrides claim)

def semanticText (claim : Properties) : String :=
  canonicalJsonStringify (.object (defined (semanticRecord claim)))

/-- `{ ...declaration, requiredEvidence: requiredEvidenceForDeclaration(declaration) }` -/
def declaredRecord (declaration : PlanClaimDeclaration) : Properties :=
  [("claimId", some (.string declaration.claimId)),
    ("statement", some (.string declaration.statement)),
    ("critical", some (.bool declaration.critical)),
    ("authoritySectionId", some (.string declaration.authoritySectionId)),
    ("claimScope", some (.string (claimScopeName declaration.claimScope))),
    ("expectedCheckId", some (.string declaration.expectedCheckId)),
    ("expectedAssertion", declaration.expectedAssertion.map assertionJson),
    ("counterexampleRequirement", declaration.counterexampleRequirement.map counterexampleJson),
    ("structuralSurface", declaration.structuralSurface.map .string),
    ("mutationProfile", declaration.mutationProfile.map .string),
    ("coversRiskTriggers", declaration.coversRiskTriggers.map riskTriggersJson),
    ("requiredEvidence",
      some (requiredEvidenceJson (requiredEvidenceForDeclaration declaration)))]

/-- The record `materializedClaimDigest` rebuilds. -/
def materializedRecord (claim : DeclaredClaim) (origin : CertifiedPlan) : Properties :=
  [("claimId", some (.string claim.claimId)),
    ("statement", some (.string claim.statement)),
    ("critical", some (.bool claim.critical)),
    ("claimScope", claim.claimScope.map fun scope => .string (claimScopeName scope)),
    ("authoritySectionId", some (.string origin.authoritySectionId)),
    ("expectedCheckId", some (.string origin.expectedCheckId))] ++
  (match origin.expectedAssertion with
    | some assertion => [("expectedAssertion", some (assertionJson assertion))]
    | none => []) ++
  [("structuralSurface", origin.structuralSurface.map .string),
    ("mutationProfile", origin.mutationProfile.map .string),
    ("counterexampleRequirement", claim.counterexampleRequirement.map counterexampleJson),
    ("coversRiskTriggers", claim.coversRiskTriggers.map riskTriggersJson),
    ("requiredEvidence", claim.requiredEvidence.map requiredEvidenceJson)]

section Hash

variable (hashText : String → String)

def certifiedClaimDigest (declaration : PlanClaimDeclaration) : String :=
  hashText (semanticText (declaredRecord declaration))

def materializedClaimDigest (claim : DeclaredClaim) : Option String :=
  match claim.certifiedPlan with
  | none => none
  | some origin =>
      if claim.signalClass ≠ .fact then none
      else some (hashText (semanticText (materializedRecord claim origin)))

end Hash

/-! ### Properties of records -/

section Properties

variable {record more : Properties}

theorem lookup_spread (key : String) :
    (spread record more).lookup key =
      match record.lookup key with
      | some value => some ((more.lookup key).getD value)
      | none => more.lookup key := by
  have hmap : (record.map fun field => (field.1, (more.lookup field.1).getD field.2)).lookup key =
      (record.lookup key).map ((more.lookup key).getD ·) := by
    induction record with
    | nil => rfl
    | cons field rest ih =>
        rw [List.map_cons, List.lookup_cons, List.lookup_cons, ih]
        cases hkey : key == field.1 with
        | true => rw [eq_of_beq hkey, Option.map_some]
        | false => rfl
  rw [spread, List.lookup_append, hmap]
  cases hlookup : record.lookup key with
  | some value => rfl
  | none =>
      have hkeep : (!(keysOf record).contains key) = true := by
        simp only [Bool.not_eq_true', List.contains_eq_mem, decide_eq_false_iff_not]
        intro hmem
        obtain ⟨field, hfield, rfl⟩ := List.mem_map.1 hmem
        simpa using List.lookup_eq_none_iff.1 hlookup field hfield
      rw [Option.map_none, Option.none_or,
        @lookup_filter _ (fun key => !(keysOf record).contains key) key hkeep]

theorem property_spread (key : String) :
    property (spread record more) key = ((more.lookup key).getD (record.lookup key).join) := by
  rw [property, lookup_spread]
  cases hmore : more.lookup key <;> cases hrecord : record.lookup key <;> rfl

theorem keysOf_spread_nodup (hrecord : (keysOf record).Nodup) (hmore : (keysOf more).Nodup) :
    (keysOf (spread record more)).Nodup := by
  have hkeys : keysOf (record.map fun field => (field.1, (more.lookup field.1).getD field.2)) =
      keysOf record := by
    rw [keysOf, List.map_map]
    rfl
  rw [spread, keysOf, List.map_append, ← keysOf, ← keysOf, hkeys]
  refine List.nodup_append.2 ⟨hrecord, hmore.sublist (List.filter_sublist.map Prod.fst), ?_⟩
  rintro key hkey other hother rfl
  obtain ⟨field, hfield, rfl⟩ := List.mem_map.1 hother
  simpa [hkey] using (List.mem_filter.1 hfield).2

theorem keysOf_defined_sublist (record : Properties) :
    (keysOf (defined record)).Sublist (keysOf record) := by
  induction record with
  | nil => exact List.Sublist.refl _
  | cons field rest ih =>
      rcases field with ⟨key, _ | value⟩
      · exact ih.cons _
      · exact ih.cons_cons _

theorem lookup_defined (hnodup : (keysOf record).Nodup) (key : String) :
    (defined record).lookup key = property record key := by
  have hnodup' := hnodup.sublist (keysOf_defined_sublist record)
  refine Option.ext fun value => ?_
  rw [lookup_eq_some_iff_mem hnodup', property, Option.join_eq_some_iff,
    lookup_eq_some_iff_mem hnodup, defined, List.mem_filterMap]
  constructor
  · rintro ⟨⟨name, shown⟩, hmem, heq⟩
    obtain ⟨_, rfl, ⟨⟩⟩ := Option.map_eq_some_iff.1 heq
    exact hmem
  · intro hmem
    exact ⟨_, hmem, rfl⟩

end Properties

/-! ### What the digest shows -/

/-- The keys whose absence is hashed as `null`. -/
def nullableKeys : List String :=
  ["counterexampleRequirement", "structuralSurface", "mutationProfile"]

/-- What is hashed of a property. -/
def hashedProperty (key : String) (value : Option (Json Nat)) : Option (Json Nat) :=
  if key ∈ nullableKeys then some (value.getD .null)
  else if key = "coversRiskTriggers" then some (sortedTexts value)
  else if key = "requiredEvidence" then
    some (match value with
      | none => .null
      | some required =>
          .object [("positive", sortedTexts (required.get? "positive")),
            ("adversarial", sortedTexts (required.get? "adversarial"))])
  else value

def overriddenKeys : List String :=
  ["statement", "counterexampleRequirement", "expectedAssertion", "structuralSurface",
    "mutationProfile", "coversRiskTriggers", "requiredEvidence"]

theorem keysOf_semanticOverrides_sublist (claim : Properties) :
    (keysOf (semanticOverrides claim)).Sublist overriddenKeys := by
  rw [semanticOverrides]
  cases property claim "expectedAssertion" with
  | none =>
      have hsublist : ["statement", "counterexampleRequirement", "structuralSurface",
          "mutationProfile", "coversRiskTriggers", "requiredEvidence"].Sublist overriddenKeys := by
        decide
      exact hsublist
  | some assertion => exact List.Sublist.refl _

theorem property_semanticRecord (claim : Properties) (key : String) :
    property (semanticRecord claim) key = hashedProperty key (property claim key) := by
  rw [semanticRecord, property_spread]
  by_cases hkey : key ∈ overriddenKeys
  · rw [semanticOverrides]
    simp only [overriddenKeys, List.mem_cons, List.not_mem_nil, or_false] at hkey
    cases hassertion : property claim "expectedAssertion" with
    | none => rcases hkey with rfl | rfl | rfl | rfl | rfl | rfl | rfl <;> rfl
    | some assertion =>
        rcases hkey with rfl | rfl | rfl | rfl | rfl | rfl | rfl
        · rfl
        · rfl
        · exact hassertion.symm
        all_goals rfl
  · have hnone : (semanticOverrides claim).lookup key = none := by
      apply List.lookup_eq_none_iff.2
      intro field hmem
      refine bne_iff_ne.2 fun heq => hkey ?_
      rw [heq]
      exact (keysOf_semanticOverrides_sublist claim).subset (List.mem_map_of_mem hmem)
    simp only [overriddenKeys, List.mem_cons, List.not_mem_nil, or_false, not_or] at hkey
    simp [hnone, hashedProperty, nullableKeys, hkey, property]

theorem keysOf_semanticRecord_nodup {claim : Properties} (hnodup : (keysOf claim).Nodup) :
    (keysOf (semanticRecord claim)).Nodup := by
  have hkeys : overriddenKeys.Nodup := by decide
  exact keysOf_spread_nodup hnodup (hkeys.sublist (keysOf_semanticOverrides_sublist claim))

/-- The text does not depend on the order of the properties, nor on whether an
undefined one is there. -/
theorem semanticText_congr {claim other : Properties} (hclaim : (keysOf claim).Nodup)
    (hother : (keysOf other).Nodup)
    (hsame : ∀ key, hashedProperty key (property claim key) =
      hashedProperty key (property other key)) :
    semanticText claim = semanticText other := by
  have hform : canonicalForm (.object (defined (semanticRecord claim))) =
      canonicalForm (.object (defined (semanticRecord other))) := by
    have hclaim' := keysOf_semanticRecord_nodup hclaim
    have hother' := keysOf_semanticRecord_nodup hother
    apply (canonicalForm_object_eq_iff_lookup
      (hclaim'.sublist (keysOf_defined_sublist _))
      (hother'.sublist (keysOf_defined_sublist _))).2
    intro key _
    rw [lookup_defined hclaim', lookup_defined hother', property_semanticRecord,
      property_semanticRecord, hsame]
  rw [semanticText, semanticText, canonicalJsonStringify_eq, canonicalJsonStringify_eq, hform]

/-- No object anywhere in the record has a key twice. -/
structure WellFormed (record : Properties) : Prop where
  keys : (keysOf record).Nodup
  values : ∀ field ∈ record, ∀ value ∈ field.2, value.distinct = true

theorem WellFormed.property_distinct {record : Properties} (hrecord : WellFormed record)
    {key : String} : ∀ value ∈ property record key, value.distinct = true := by
  intro value hvalue
  have hlookup := Option.join_eq_some_iff.1 hvalue
  exact hrecord.values _ (mem_of_lookup hlookup) value rfl

@[simp] theorem distinct_textArray (texts : List String) : (textArray texts).distinct = true := by
  rw [textArray, Json.distinct_array, List.forall_mem_map]
  exact fun _ _ => rfl

theorem distinct_sortedTexts (texts : Option (Json Nat)) :
    (sortedTexts texts).distinct = true :=
  distinct_textArray _

theorem hashedProperty_distinct (key : String) {value : Option (Json Nat)}
    (hdistinct : ∀ shown ∈ value, shown.distinct = true) :
    ∀ shown ∈ hashedProperty key value, shown.distinct = true := by
  unfold hashedProperty
  split_ifs
  · rintro _ ⟨⟩
    cases value with
    | none => rfl
    | some shown => exact hdistinct shown rfl
  · rintro _ ⟨⟩
    exact distinct_sortedTexts value
  · rintro _ ⟨⟩
    cases value with
    | none => rfl
    | some required =>
        refine Json.distinct_object.2 ⟨by simp [keysOf], ?_⟩
        simp [distinct_sortedTexts]
  · exact hdistinct

theorem semanticRecord_distinct {claim : Properties} (hclaim : WellFormed claim) :
    (Json.object (defined (semanticRecord claim))).distinct = true := by
  have hkeys := keysOf_semanticRecord_nodup hclaim.keys
  refine Json.distinct_object.2 ⟨hkeys.sublist (keysOf_defined_sublist _), ?_⟩
  rintro ⟨key, value⟩ hmem
  have hlookup := (lookup_eq_some_iff_mem (hkeys.sublist (keysOf_defined_sublist _))).2 hmem
  rw [lookup_defined hkeys, property_semanticRecord] at hlookup
  exact hashedProperty_distinct key hclaim.property_distinct value hlookup

/-- Equal texts show the same under every key. -/
theorem hashedProperty_of_semanticText_eq {claim other : Properties} (hclaim : WellFormed claim)
    (hother : WellFormed other) (htext : semanticText claim = semanticText other) {key : String}
    (hkey : key ≠ prototypeKey) :
    (hashedProperty key (property claim key)).map canonicalForm =
      (hashedProperty key (property other key)).map canonicalForm := by
  have hform := (canonicalJsonStringify_eq_iff (semanticRecord_distinct hclaim)
    (semanticRecord_distinct hother)).1 htext
  have hclaim' := keysOf_semanticRecord_nodup hclaim.keys
  have hother' := keysOf_semanticRecord_nodup hother.keys
  have hlookup := (canonicalForm_object_eq_iff_lookup
    (hclaim'.sublist (keysOf_defined_sublist _))
    (hother'.sublist (keysOf_defined_sublist _))).1 hform key hkey
  rwa [lookup_defined hclaim', lookup_defined hother', property_semanticRecord,
    property_semanticRecord] at hlookup

/-! ### Values read back from their canonical form -/

@[simp] theorem distinct_string (text : String) : (Json.string text : Json Nat).distinct = true :=
  rfl

@[simp] theorem distinct_bool (value : Bool) : (Json.bool value : Json Nat).distinct = true := rfl

@[simp] theorem distinct_assertionJson (assertion : AssertionIdentity) :
    (assertionJson assertion).distinct = true :=
  Json.distinct_object.2 ⟨by simp [keysOf], by simp⟩

@[simp] theorem distinct_counterexampleJson (requirement : CounterexampleRequirement) :
    (counterexampleJson requirement).distinct = true := by
  cases requirement with
  | assertion checkId assertion =>
      exact Json.distinct_object.2 ⟨by simp [keysOf], by simp⟩
  | aggregateCheck checkId candidateId =>
      cases candidateId <;>
        exact Json.distinct_object.2 ⟨by simp [keysOf, defined], by simp [defined]⟩

@[simp] theorem distinct_requiredEvidenceJson (required : RequiredEvidence) :
    (requiredEvidenceJson required).distinct = true :=
  Json.distinct_object.2 ⟨by simp [keysOf], by simp⟩

/-- What one key shows of two objects of one canonical form. -/
theorem lookup_of_canonicalForm_eq {fields others : List (String × Json Nat)}
    (hfields : (Json.object fields).distinct = true)
    (hothers : (Json.object others).distinct = true)
    (hform : canonicalForm (.object fields) = canonicalForm (.object others)) {key : String}
    (hkey : key ≠ prototypeKey) :
    (fields.lookup key).map canonicalForm = (others.lookup key).map canonicalForm :=
  (canonicalForm_object_eq_iff_lookup (Json.distinct_object.1 hfields).1
    (Json.distinct_object.1 hothers).1).1 hform key hkey

theorem assertionJson_injective {assertion other : AssertionIdentity}
    (hform : canonicalForm (assertionJson assertion) = canonicalForm (assertionJson other)) :
    assertion = other := by
  have hlookup : ∀ {key : String}, key ≠ prototypeKey → _ :=
    lookup_of_canonicalForm_eq (distinct_assertionJson _) (distinct_assertionJson _) hform
  have hprovider : some (Json.string (N := Nat) assertion.providerId) =
      some (.string other.providerId) := @hlookup "providerId" (by decide)
  have hlocal : some (Json.string (N := Nat) assertion.localId) = some (.string other.localId) :=
    @hlookup "localId" (by decide)
  cases assertion
  cases other
  simp_all

theorem counterexampleJson_injective {requirement other : CounterexampleRequirement}
    (hform : canonicalForm (counterexampleJson requirement) =
      canonicalForm (counterexampleJson other)) : requirement = other := by
  have hdistinct := distinct_counterexampleJson
  cases requirement with
  | assertion checkId assertion =>
      cases other with
      | assertion checkId' assertion' =>
          have hlookup : ∀ {key : String}, key ≠ prototypeKey → _ :=
            lookup_of_canonicalForm_eq (hdistinct (.assertion checkId assertion))
              (hdistinct (.assertion checkId' assertion')) hform
          have hcheck : some (Json.string (N := Nat) checkId) = some (.string checkId') :=
            @hlookup "checkId" (by decide)
          have hassertion : some (canonicalForm (assertionJson assertion)) =
              some (canonicalForm (assertionJson assertion')) :=
            @hlookup "assertion" (by decide)
          rw [assertionJson_injective (Option.some.inj hassertion),
            Json.string.inj (Option.some.inj hcheck)]
      | aggregateCheck checkId' candidateId' =>
          have hkind := @lookup_of_canonicalForm_eq _ _ (hdistinct (.assertion checkId assertion))
            (hdistinct (.aggregateCheck checkId' candidateId')) hform "kind" (by decide)
          change some (Json.string (N := Nat) "assertion") = some (.string "aggregate_check") at hkind
          simp at hkind
  | aggregateCheck checkId candidateId =>
      cases other with
      | assertion checkId' assertion' =>
          have hkind := @lookup_of_canonicalForm_eq _ _
            (hdistinct (.aggregateCheck checkId candidateId))
            (hdistinct (.assertion checkId' assertion')) hform "kind" (by decide)
          change some (Json.string (N := Nat) "aggregate_check") = some (.string "assertion") at hkind
          simp at hkind
      | aggregateCheck checkId' candidateId' =>
          have hlookup : ∀ {key : String}, key ≠ prototypeKey → _ :=
            lookup_of_canonicalForm_eq (hdistinct (.aggregateCheck checkId candidateId))
              (hdistinct (.aggregateCheck checkId' candidateId')) hform
          have hcheck : some (Json.string (N := Nat) checkId) = some (.string checkId') :=
            @hlookup "checkId" (by decide)
          have hcandidate := @hlookup "candidateId" (by decide)
          have hsame : candidateId = candidateId' := by
            cases candidateId with
            | none => cases candidateId' with
              | none => rfl
              | some => cases hcandidate
            | some => cases candidateId' with
              | none => cases hcandidate
              | some =>
                  cases hcandidate
                  rfl
          rw [hsame, Json.string.inj (Option.some.inj hcheck)]

theorem textArray_injective {texts others : List String}
    (hform : canonicalForm (textArray texts) = canonicalForm (textArray others)) :
    texts = others := by
  rw [textArray, textArray, canonicalForm_array, canonicalForm_array, List.map_map, List.map_map,
    Json.array.injEq] at hform
  exact List.map_injective_iff.2 (fun _ _ heq => Json.string.inj heq) hform

theorem textsOf_textArray (texts : List String) : textsOf (textArray texts) = texts := by
  rw [textArray, textsOf, List.filterMap_map]
  exact List.filterMap_some

/-- The sorted texts show the texts up to their order. -/
theorem perm_of_sortedTexts {texts others : List String}
    (hform : canonicalForm (sortedTexts (some (textArray texts))) =
      canonicalForm (sortedTexts (some (textArray others)))) : texts.Perm others := by
  have hsorted := textArray_injective hform
  rw [Option.map_some, Option.map_some, Option.getD_some, Option.getD_some, textsOf_textArray,
    textsOf_textArray] at hsorted
  exact sortTexts_eq_iff.1 hsorted

/-- A value hashed as `null` when it is absent, with an encoding that is never `null`. -/
theorem nullable_injective {α : Type} (encode : α → Json Nat)
    (hinjective : ∀ a b, canonicalForm (encode a) = canonicalForm (encode b) → a = b)
    (hnull : ∀ a, canonicalForm (encode a) ≠ .null) {value other : Option α}
    (hform : some (canonicalForm ((value.map encode).getD .null)) =
      some (canonicalForm ((other.map encode).getD .null))) : value = other := by
  have hform := Option.some.inj hform
  cases value with
  | none =>
      cases other with
      | none => rfl
      | some b => exact absurd hform.symm (hnull b)
  | some a =>
      cases other with
      | none => exact absurd hform (hnull a)
      | some b => rw [hinjective a b hform]

theorem canonicalForm_object_ne_null (fields : List (String × Json Nat)) :
    canonicalForm (.object fields) ≠ .null := by
  rw [canonicalForm_object]
  exact fun heq => nomatch heq

theorem claimScopeName_injective : Function.Injective claimScopeName := by
  intro scope other
  cases scope <;> cases other <;> simp [claimScopeName]

theorem providerKindName_injective : Function.Injective providerKindName := by
  intro kind other
  cases kind <;> cases other <;> simp [providerKindName]

theorem riskTriggerName_injective : Function.Injective SpecificRiskTrigger.name := by
  intro trigger other
  cases trigger <;> cases other <;> simp [SpecificRiskTrigger.name]

theorem sortedTexts_riskTriggers (triggers : Option (List SpecificRiskTrigger)) :
    sortedTexts (triggers.map riskTriggersJson) =
      sortedTexts (some (textArray ((triggers.getD []).map SpecificRiskTrigger.name))) := by
  cases triggers <;> rfl

theorem sortedTexts_congr {texts others : List String} (hperm : texts.Perm others) :
    sortedTexts (some (textArray texts)) = sortedTexts (some (textArray others)) := by
  rw [sortedTexts, sortedTexts, Option.map_some, Option.map_some, textsOf_textArray,
    textsOf_textArray, Option.getD_some, Option.getD_some, sortTexts_eq_iff.2 hperm]

theorem requiredEvidence_of_hashed {required : Option RequiredEvidence}
    {expected : RequiredEvidence}
    (heq : (hashedProperty "requiredEvidence" (required.map requiredEvidenceJson)).map
        canonicalForm =
      (hashedProperty "requiredEvidence" (some (requiredEvidenceJson expected))).map
        canonicalForm) :
    ∃ shown, required = some shown ∧ shown.positive.Perm expected.positive ∧
      shown.adversarial = expected.adversarial := by
  cases required with
  | none => exact absurd (Option.some.inj heq).symm (canonicalForm_object_ne_null _)
  | some shown =>
      have hdistinct : ∀ value : RequiredEvidence,
          (Json.object [("positive", sortedTexts ((requiredEvidenceJson value).get? "positive")),
            ("adversarial", sortedTexts ((requiredEvidenceJson value).get? "adversarial"))]
              ).distinct = true :=
        fun value => Json.distinct_object.2 ⟨by simp [keysOf], by simp [distinct_sortedTexts]⟩
      have hlookup : ∀ {key : String}, key ≠ prototypeKey → _ :=
        lookup_of_canonicalForm_eq (hdistinct shown) (hdistinct expected) (Option.some.inj heq)
      have hpositive := perm_of_sortedTexts (Option.some.inj (@hlookup "positive" (by decide)))
      have hadversarial :=
        perm_of_sortedTexts (Option.some.inj (@hlookup "adversarial" (by decide)))
      refine ⟨shown, rfl, (List.map_perm_map_iff providerKindName_injective).1 hpositive, ?_⟩
      simpa using hadversarial.length_eq

theorem hashed_of_requiredEvidence {required expected : RequiredEvidence}
    (hpositive : required.positive.Perm expected.positive)
    (hadversarial : required.adversarial = expected.adversarial) :
    hashedProperty "requiredEvidence" (some (requiredEvidenceJson required)) =
      hashedProperty "requiredEvidence" (some (requiredEvidenceJson expected)) := by
  have hsorted := sortedTexts_congr (hpositive.map providerKindName)
  have hform : ∀ value : RequiredEvidence,
      hashedProperty "requiredEvidence" (some (requiredEvidenceJson value)) =
        some (.object
          [("positive", sortedTexts (some (textArray (value.positive.map providerKindName)))),
            ("adversarial", sortedTexts
              (some (textArray (List.replicate value.adversarial "counterexample"))))]) :=
    fun _ => rfl
  rw [hform, hform, hsorted, hadversarial]

/-! ### Agreement -/

/-- A materialised claim means what the declaration says.  The evidence classes and
the covered triggers are sets, listed in any order. -/
structure Agrees (declaration : PlanClaimDeclaration) (claim : DeclaredClaim)
    (origin : CertifiedPlan) : Prop where
  claimId : claim.claimId = declaration.claimId
  statement : claim.statement = declaration.statement
  critical : claim.critical = declaration.critical
  claimScope : claim.claimScope = some declaration.claimScope
  authoritySectionId : origin.authoritySectionId = declaration.authoritySectionId
  expectedCheckId : origin.expectedCheckId = declaration.expectedCheckId
  expectedAssertion : origin.expectedAssertion = declaration.expectedAssertion
  structuralSurface : origin.structuralSurface = declaration.structuralSurface
  mutationProfile : origin.mutationProfile = declaration.mutationProfile
  counterexampleRequirement :
    claim.counterexampleRequirement = declaration.counterexampleRequirement
  coversRiskTriggers :
    (claim.coversRiskTriggers.getD []).Perm (declaration.coversRiskTriggers.getD [])
  requiredEvidence : ∃ required, claim.requiredEvidence = some required ∧
    required.positive.Perm (requiredEvidenceForDeclaration declaration).positive ∧
    required.adversarial = (requiredEvidenceForDeclaration declaration).adversarial

/-- The keys of the two records. -/
def claimKeys : List String :=
  ["claimId", "statement", "critical", "claimScope", "authoritySectionId", "expectedCheckId",
    "expectedAssertion", "structuralSurface", "mutationProfile", "counterexampleRequirement",
    "coversRiskTriggers", "requiredEvidence"]

theorem property_of_notMem {record : Properties} {key : String} (hkey : key ∉ keysOf record) :
    property record key = none := by
  have hnone : record.lookup key = none := by
    apply List.lookup_eq_none_iff.2
    intro field hmem
    exact bne_iff_ne.2 fun heq => hkey (heq ▸ List.mem_map_of_mem hmem)
  rw [property, hnone, Option.join_none]

section Records

variable (declaration : PlanClaimDeclaration) (claim : DeclaredClaim) (origin : CertifiedPlan)

theorem keysOf_declaredRecord_perm : (keysOf (declaredRecord declaration)).Perm claimKeys := by
  have hperm : ["claimId", "statement", "critical", "authoritySectionId", "claimScope",
      "expectedCheckId", "expectedAssertion", "counterexampleRequirement", "structuralSurface",
      "mutationProfile", "coversRiskTriggers", "requiredEvidence"].Perm claimKeys := by
    decide
  exact hperm

theorem keysOf_materializedRecord_sublist :
    (keysOf (materializedRecord claim origin)).Sublist claimKeys := by
  rw [materializedRecord]
  cases origin.expectedAssertion with
  | none =>
      have hsublist : ["claimId", "statement", "critical", "claimScope", "authoritySectionId",
          "expectedCheckId", "structuralSurface", "mutationProfile", "counterexampleRequirement",
          "coversRiskTriggers", "requiredEvidence"].Sublist claimKeys := by
        decide
      exact hsublist
  | some assertion => exact List.Sublist.refl _

theorem claimKeys_nodup : claimKeys.Nodup := by decide

theorem prototypeKey_notMem_claimKeys : prototypeKey ∉ claimKeys := by decide

theorem declaredRecord_wellFormed : WellFormed (declaredRecord declaration) where
  keys := (keysOf_declaredRecord_perm declaration).nodup_iff.2 claimKeys_nodup
  values := by simp [declaredRecord, riskTriggersJson]

theorem materializedRecord_wellFormed : WellFormed (materializedRecord claim origin) where
  keys := claimKeys_nodup.sublist (keysOf_materializedRecord_sublist claim origin)
  values := by
    rw [materializedRecord]
    cases origin.expectedAssertion <;> simp [riskTriggersJson]

/-- The materialised record with its optional assertion in place. -/
def rebuiltRecord : Properties :=
  [("claimId", some (.string claim.claimId)),
    ("statement", some (.string claim.statement)),
    ("critical", some (.bool claim.critical)),
    ("claimScope", claim.claimScope.map fun scope => .string (claimScopeName scope)),
    ("authoritySectionId", some (.string origin.authoritySectionId)),
    ("expectedCheckId", some (.string origin.expectedCheckId)),
    ("expectedAssertion", origin.expectedAssertion.map assertionJson),
    ("structuralSurface", origin.structuralSurface.map .string),
    ("mutationProfile", origin.mutationProfile.map .string),
    ("counterexampleRequirement", claim.counterexampleRequirement.map counterexampleJson),
    ("coversRiskTriggers", claim.coversRiskTriggers.map riskTriggersJson),
    ("requiredEvidence", claim.requiredEvidence.map requiredEvidenceJson)]

theorem property_materializedRecord (key : String) :
    property (materializedRecord claim origin) key = property (rebuiltRecord claim origin) key := by
  rw [materializedRecord, rebuiltRecord]
  cases origin.expectedAssertion with
  | some assertion => rfl
  | none =>
      by_cases hkey : key = "expectedAssertion"
      · subst hkey
        rfl
      · simp [property, List.lookup_cons, beq_false_of_ne hkey]

theorem semanticText_eq_iff_agrees :
    semanticText (materializedRecord claim origin) = semanticText (declaredRecord declaration) ↔
      Agrees declaration claim origin := by
  constructor
  · intro htext
    have hsame : ∀ key ∈ claimKeys,
        (hashedProperty key (property (rebuiltRecord claim origin) key)).map canonicalForm =
          (hashedProperty key (property (declaredRecord declaration) key)).map canonicalForm := by
      intro key hkey
      rw [← property_materializedRecord]
      exact hashedProperty_of_semanticText_eq (materializedRecord_wellFormed claim origin)
        (declaredRecord_wellFormed declaration) htext
        (fun heq => prototypeKey_notMem_claimKeys (heq ▸ hkey))
    have htext : ∀ {key text text' : String}, key ∈ claimKeys →
        (key ∈ claimKeys → some (Json.string (N := Nat) text) = some (.string text')) →
          text = text' :=
      fun hkey heq => Json.string.inj (Option.some.inj (heq hkey))
    have hnullableText : ∀ {value other : Option String},
        some (canonicalForm ((value.map (Json.string (N := Nat))).getD .null)) =
          some (canonicalForm ((other.map Json.string).getD .null)) → value = other :=
      nullable_injective .string (fun _ _ heq => Json.string.inj heq) (fun _ heq => nomatch heq)
    have hscope : (claim.claimScope.map claimScopeName) =
        some (claimScopeName declaration.claimScope) := by
      have heq : (claim.claimScope.map fun scope =>
            Json.string (N := Nat) (claimScopeName scope)).map canonicalForm =
          some (.string (claimScopeName declaration.claimScope)) := hsame "claimScope" (by decide)
      cases hscope : claim.claimScope with
      | none =>
          rw [hscope] at heq
          cases heq
      | some scope =>
          rw [hscope] at heq
          exact congrArg some (Json.string.inj (Option.some.inj heq))
    have hassertion : origin.expectedAssertion = declaration.expectedAssertion := by
      have heq : (origin.expectedAssertion.map assertionJson).map canonicalForm =
          (declaration.expectedAssertion.map assertionJson).map canonicalForm :=
        hsame "expectedAssertion" (by decide)
      rw [Option.map_map, Option.map_map] at heq
      exact Option.map_injective (fun _ _ heq => assertionJson_injective heq) heq
    have hrequirement : claim.counterexampleRequirement =
        declaration.counterexampleRequirement := by
      apply nullable_injective counterexampleJson (fun _ _ heq => counterexampleJson_injective heq)
      · intro requirement
        cases requirement <;> exact canonicalForm_object_ne_null _
      · exact hsame "counterexampleRequirement" (by decide)
    have htriggers : (claim.coversRiskTriggers.getD []).Perm
        (declaration.coversRiskTriggers.getD []) := by
      have heq : some (canonicalForm (sortedTexts (claim.coversRiskTriggers.map riskTriggersJson))) =
          some (canonicalForm
            (sortedTexts (declaration.coversRiskTriggers.map riskTriggersJson))) :=
        hsame "coversRiskTriggers" (by decide)
      rw [sortedTexts_riskTriggers, sortedTexts_riskTriggers] at heq
      exact (List.map_perm_map_iff riskTriggerName_injective).1
        (perm_of_sortedTexts (Option.some.inj heq))
    exact
      { claimId := htext (by decide) (hsame "claimId")
        statement := htext (by decide) (hsame "statement")
        critical := Json.bool.inj (Option.some.inj (hsame "critical" (by decide)))
        claimScope := Option.map_injective claimScopeName_injective hscope
        authoritySectionId := htext (by decide) (hsame "authoritySectionId")
        expectedCheckId := htext (by decide) (hsame "expectedCheckId")
        expectedAssertion := hassertion
        structuralSurface := hnullableText (hsame "structuralSurface" (by decide))
        mutationProfile := hnullableText (hsame "mutationProfile" (by decide))
        counterexampleRequirement := hrequirement
        coversRiskTriggers := htriggers
        requiredEvidence := requiredEvidence_of_hashed (hsame "requiredEvidence" (by decide)) }
  · intro hagrees
    apply semanticText_congr (materializedRecord_wellFormed claim origin).keys
      (declaredRecord_wellFormed declaration).keys
    intro key
    rw [property_materializedRecord]
    by_cases hkey : key ∈ claimKeys
    · simp only [claimKeys, List.mem_cons, List.not_mem_nil, or_false] at hkey
      rcases hkey with rfl | rfl | rfl | rfl | rfl | rfl | rfl | rfl | rfl | rfl | rfl | rfl
      · exact congrArg (fun text => some (Json.string (N := Nat) text)) hagrees.claimId
      · exact congrArg (fun text => some (Json.string (N := Nat) text)) hagrees.statement
      · exact congrArg (fun value => some (Json.bool (N := Nat) value)) hagrees.critical
      · exact congrArg (Option.map fun scope => Json.string (N := Nat) (claimScopeName scope))
          hagrees.claimScope
      · exact congrArg (fun text => some (Json.string (N := Nat) text)) hagrees.authoritySectionId
      · exact congrArg (fun text => some (Json.string (N := Nat) text)) hagrees.expectedCheckId
      · exact congrArg (Option.map assertionJson) hagrees.expectedAssertion
      · exact congrArg (fun value => some ((Option.map (Json.string (N := Nat)) value).getD .null))
          hagrees.structuralSurface
      · exact congrArg (fun value => some ((Option.map (Json.string (N := Nat)) value).getD .null))
          hagrees.mutationProfile
      · exact congrArg (fun value => some ((Option.map counterexampleJson value).getD .null))
          hagrees.counterexampleRequirement
      · change some (sortedTexts (claim.coversRiskTriggers.map riskTriggersJson)) =
          some (sortedTexts (declaration.coversRiskTriggers.map riskTriggersJson))
        rw [sortedTexts_riskTriggers, sortedTexts_riskTriggers,
          sortedTexts_congr (hagrees.coversRiskTriggers.map SpecificRiskTrigger.name)]
      · obtain ⟨required, hrequired, hpositive, hadversarial⟩ := hagrees.requiredEvidence
        change hashedProperty "requiredEvidence" (claim.requiredEvidence.map requiredEvidenceJson) =
          hashedProperty "requiredEvidence"
            (some (requiredEvidenceJson (requiredEvidenceForDeclaration declaration)))
        rw [hrequired]
        exact hashed_of_requiredEvidence hpositive hadversarial
    · rw [property_of_notMem hkey, property_of_notMem]
      exact fun hmem => hkey ((keysOf_declaredRecord_perm declaration).mem_iff.1 hmem)

end Records

/-- With an injective hash, the digest of a claim is the certified one exactly when
the claim is a fact that means what the declaration says. -/
theorem materializedClaimDigest_eq_iff_agrees {hashText : String → String}
    (hinjective : Function.Injective hashText) (declaration : PlanClaimDeclaration)
    (claim : DeclaredClaim) :
    materializedClaimDigest hashText claim = some (certifiedClaimDigest hashText declaration) ↔
      claim.signalClass = .fact ∧
        ∃ origin, claim.certifiedPlan = some origin ∧ Agrees declaration claim origin := by
  rw [materializedClaimDigest]
  cases claim.certifiedPlan with
  | none => simp
  | some origin =>
      by_cases hfact : claim.signalClass = .fact
      · simp [hfact, certifiedClaimDigest, hinjective.eq_iff, semanticText_eq_iff_agrees]
      · simp [hfact]

theorem materializedClaimDigest_of_agrees (hashText : String → String)
    {declaration : PlanClaimDeclaration} {claim : DeclaredClaim} {origin : CertifiedPlan}
    (hfact : claim.signalClass = .fact) (horigin : claim.certifiedPlan = some origin)
    (hagrees : Agrees declaration claim origin) :
    materializedClaimDigest hashText claim = some (certifiedClaimDigest hashText declaration) := by
  rw [materializedClaimDigest, horigin, certifiedClaimDigest,
    ← (semanticText_eq_iff_agrees declaration claim origin).2 hagrees]
  simp [hfact]

end GovernedRuntime.ProofGraph.Canonical
