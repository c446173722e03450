/-
The persisted audit event (`src/state/evidence-audit.ts`,
`src/state/evidence-identity.ts`, `src/state/evidence-timestamp.ts`) and its two
digests (`src/audit/event-core.ts`, `src/audit/canonical-digest.ts`).
-/
import GovernedRuntime.Activation.Revision
import GovernedRuntime.Audit.CanonicalJson
import GovernedRuntime.Library.Schema
import GovernedRuntime.State.Timestamp

namespace GovernedRuntime.Audit

open GovernedRuntime.Activation GovernedRuntime.Library GovernedRuntime.State

variable {N : Type}

/-! ### Schema leaves -/

/-- `z.string()` with a further check. -/
def isText (accepts : String → Bool) : Json N → Bool
  | .string value => accepts value
  | _ => false

/-- `.nullable()`. -/
def isNullOr (test : Json N → Bool) : Json N → Bool
  | .null => true
  | value => test value

def isBoolean : Json N → Bool
  | .bool _ => true
  | _ => false

/-- `z.number()`, which takes no infinite number. -/
def isFinite [JsonNumber N] : Json N → Bool
  | .number value => (JsonNumber.numeral value).isSome
  | _ => false

/-- `z.number().int().positive()`. -/
def isPositiveInteger [JsonNumber N] : Json N → Bool
  | .number value => (JsonNumber.natural value).any isPositiveInt
  | _ => false

/-- `z.array(z.string())`. -/
def isTextArray : Json N → Bool
  | .array items => items.all (isText fun _ => true)
  | _ => false

/-- `z.record(z.string(), z.unknown())`. -/
def isRecord : Json N → Bool
  | .object _ => true
  | _ => false

def text (accepts : String → Bool) : Schema N := .leaf (isText accepts)

def anyText : Schema N := text fun _ => true

/-- `z.enum` and `z.literal`. -/
def oneOf (values : List String) : Schema N := text values.contains

/-- `z.string().datetime()`. -/
def datetime : Schema N := text fun value => (dateParse value).isSome

/-! ### The event schema -/

open Schema (requiredField optionalField)

/-- `/^[A-Za-z0-9_-]{1,128}$/`. -/
def isHostSessionId (value : String) : Bool :=
  let chars := value.toList
  1 ≤ chars.length && chars.length ≤ 128 &&
    chars.all fun c => c.isAlphanum || c == '_' || c == '-'

def actorAssuranceTiers : List String := ["best_effort", "claim_validated", "idp_verified"]

def actorVerificationMetaSchema : Schema N :=
  .object false
    [requiredField "issuer" anyText, requiredField "audience" (.leaf isTextArray),
      requiredField "keyId" anyText, requiredField "algorithm" anyText,
      requiredField "verifiedAt" datetime]

def actorInfoSchema : Schema N :=
  .object false
    [requiredField "id" (text isNonEmpty),
      requiredField "email" (.leaf (isNullOr (isText fun _ => true))),
      optionalField "displayName" (.leaf (isNullOr (isText fun _ => true))),
      requiredField "source" (oneOf ["env", "git", "claim", "oidc", "unknown"]),
      requiredField "assurance" (oneOf actorAssuranceTiers),
      optionalField "verificationMeta" actorVerificationMetaSchema]

def ntpEvidenceSchema [JsonNumber N] : Schema N :=
  .object false
    [requiredField "offsetMs" (.leaf isFinite), requiredField "server" anyText,
      requiredField "driftWarned" (.leaf isBoolean)]

def tsaEvidenceSchema : Schema N :=
  .object false
    [requiredField "tokenDerBase64" anyText, requiredField "receivedAt" datetime,
      optionalField "messageImprint" anyText, optionalField "digestAlgorithm" anyText,
      optionalField "policyOid" anyText, optionalField "serialNumber" anyText,
      optionalField "tsaTimestamp" anyText, optionalField "signerSubject" anyText,
      requiredField "verificationStatus" (oneOf ["unchecked", "valid", "invalid"]),
      optionalField "verificationReason" anyText]

def timestampEvidenceSchema [JsonNumber N] : Schema N :=
  .object false
    [requiredField "status"
        (oneOf ["local", "ntp_checked", "tsa_stamped", "tsa_verified", "tsa_failed"]),
      requiredField "source" (oneOf ["local_clock", "ntp", "tsa"]),
      optionalField "ntp" ntpEvidenceSchema, optionalField "tsa" tsaEvidenceSchema,
      optionalField "warning" anyText, requiredField "resolvedAt" datetime]

def currentAuditFormatVersion : String := "audit-chain.v3"

def genesisHash : String := "genesis"

def auditEventShape [JsonNumber N] : Schema.Shape N :=
  [requiredField "id" (text isUuid), requiredField "flowguardSessionId" (text isUuid),
    optionalField "hostSessionId" (text isHostSessionId), requiredField "phase" anyText,
    requiredField "event" anyText,
    requiredField "auditFormatVersion" (oneOf [currentAuditFormatVersion]),
    requiredField "auditSequence" (.leaf isPositiveInteger),
    requiredField "occurredAt" datetime, requiredField "recordedAt" datetime,
    requiredField "actor" anyText, requiredField "detail" (.leaf isRecord),
    optionalField "actorInfo" actorInfoSchema,
    requiredField "prevHash" (text fun hash => isSha256Hex hash || hash == genesisHash),
    requiredField "semanticEventDigest" (text isSha256Hex),
    requiredField "chainHash" (text isSha256Hex),
    optionalField "timestampEvidence" timestampEvidenceSchema,
    optionalField "enforcementLevel" (oneOf ["synchronous", "hook_gated", "advisory"])]

def auditEventSchema [JsonNumber N] : Schema N := .object true auditEventShape

/-- `AuditEvent.safeParse`. -/
def safeParse [JsonNumber N] (raw : Json N) : Option (Json N) := auditEventSchema.parse raw

def fieldText (value : Json N) (key : String) : Option String :=
  (value.get? key).bind Json.text?

/-- A field the schema makes a text. -/
def textOf (event : Json N) (key : String) : String := (fieldText event key).getD ""

/-- A field the schema makes a positive integer. -/
def sequenceOf [JsonNumber N] (event : Json N) : Option Nat :=
  match event.get? "auditSequence" with
  | some (.number value) => JsonNumber.natural value
  | _ => none

/-! ### Digests -/

def excludedFields : List String :=
  ["chainHash", "auditSequence", "recordedAt", "timestampEvidence", "semanticEventDigest",
    "prevHash"]

def canonicalEventContent [JsonNumber N] (event : Json N) : String :=
  canonicalJsonStringify (event.without excludedFields)

def computeCanonicalEventDigest [JsonNumber N] (hashText : String → String)
    (event : Json N) : String :=
  hashText (canonicalEventContent event)

/-- The text the chain hash is taken of. -/
def chainHashInput [JsonNumber N] (prevHash : String) (event : Json N) : String :=
  currentAuditFormatVersion ++ ":" ++ prevHash ++ ":" ++ canonicalJsonStringify event

def computeChainHash [JsonNumber N] (hashText : String → String) (prevHash : String)
    (event : Json N) : String :=
  hashText (chainHashInput prevHash event)

variable [JsonNumber N]

/-! ### Values of one canonical form -/

theorem get?_canonicalForm {value : Json N} (hdistinct : value.distinct = true) {key : String}
    (hkey : key ≠ prototypeKey) :
    (canonicalForm value).get? key = (value.get? key).map canonicalForm := by
  cases value with
  | object fields =>
      have hnodup := (Json.distinct_object.1 hdistinct).1
      have hown := hnodup.sublist (keysOf_ownFields_sublist fields)
      rw [canonicalForm_object]
      change (List.map _ _).lookup key = (fields.lookup key).map canonicalForm
      rw [lookup_map, lookup_congr (((arrange_perm _).map Prod.fst).nodup_iff.2 hown)
        (arrange_perm _)]
      exact congrArg _ (lookup_ownFields hkey fields)
  | number value =>
      rw [canonicalForm_number]
      split_ifs <;> rfl
  | array items =>
      rw [canonicalForm_array]
      rfl
  | _ => rfl

theorem text?_canonicalForm (value : Json N) : (canonicalForm value).text? = value.text? := by
  cases value with
  | number value =>
      rw [canonicalForm_number]
      split_ifs <;> rfl
  | array items =>
      rw [canonicalForm_array]
      rfl
  | object fields =>
      rw [canonicalForm_object]
      rfl
  | _ => rfl

theorem fieldText_canonicalForm {value : Json N} (hdistinct : value.distinct = true)
    {key : String} (hkey : key ≠ prototypeKey) :
    fieldText (canonicalForm value) key = fieldText value key := by
  rw [fieldText, get?_canonicalForm hdistinct hkey, fieldText, Option.bind_map]
  exact congrArg _ (funext text?_canonicalForm)

theorem canonicalForm_without {value : Json N} (keys : List String)
    (hdistinct : value.distinct = true) :
    canonicalForm (value.without keys) = (canonicalForm value).without keys := by
  cases value with
  | object fields =>
      have hnodup := (Json.distinct_object.1 hdistinct).1
      have hown := hnodup.sublist (keysOf_ownFields_sublist fields)
      change canonicalForm (.object (fields.filter fun field => !keys.contains field.1)) = _
      have hcomm : ownFields (fields.filter fun field => !keys.contains field.1) =
          (ownFields fields).filter fun field => !keys.contains field.1 := by
        rw [ownFields, ownFields, List.filter_filter, List.filter_filter]
        exact List.filter_congr fun field _ => Bool.and_comm _ _
      have hfilter := arrange_filter hown (fun key => !keys.contains key)
      have hmap : ((arrange (ownFields fields)).map (Prod.map id canonicalForm)).filter
          (fun field => !keys.contains field.1) =
          ((arrange (ownFields fields)).filter fun field => !keys.contains field.1).map
            (Prod.map id canonicalForm) := List.filter_map
      rw [canonicalForm_object, canonicalForm_object, hcomm, hfilter, ← hmap]
      rfl
  | number value =>
      change canonicalForm (.number value) = _
      rw [canonicalForm_number]
      split_ifs <;> rfl
  | array items =>
      change canonicalForm (.array items) = _
      rw [canonicalForm_array]
      rfl
  | _ => rfl

/-- Two values that no canonical text tells apart. -/
structure Alike (a b : Json N) : Prop where
  distinct_left : a.distinct = true
  distinct_right : b.distinct = true
  form_eq : canonicalForm a = canonicalForm b

theorem Alike.fieldText_eq {a b : Json N} (halike : Alike a b) {key : String}
    (hkey : key ≠ prototypeKey) : fieldText a key = fieldText b key := by
  rw [← fieldText_canonicalForm halike.distinct_left hkey, halike.form_eq,
    fieldText_canonicalForm halike.distinct_right hkey]

theorem Alike.textOf_eq {a b : Json N} (halike : Alike a b) {key : String}
    (hkey : key ≠ prototypeKey) : textOf a key = textOf b key := by
  rw [textOf, textOf, halike.fieldText_eq hkey]

/-- Fields under one key are both absent, or alike. -/
theorem Alike.get? {a b : Json N} (halike : Alike a b) {key : String}
    (hkey : key ≠ prototypeKey) : Option.Rel Alike (a.get? key) (b.get? key) := by
  have ha := get?_canonicalForm halike.distinct_left hkey
  have hb := get?_canonicalForm halike.distinct_right hkey
  rw [halike.form_eq, hb] at ha
  cases hfield : a.get? key with
  | none =>
      rw [hfield, Option.map_none, Option.map_eq_none_iff] at ha
      rw [ha]
      exact .none
  | some field =>
      rw [hfield, Option.map_some, Option.map_eq_some_iff] at ha
      obtain ⟨field', hfield', hform⟩ := ha
      rw [hfield']
      exact .some ⟨Json.distinct_of_get? halike.distinct_left hfield,
        Json.distinct_of_get? halike.distinct_right hfield', hform.symm⟩

theorem Alike.sequenceOf_eq {a b : Json N} (halike : Alike a b) :
    sequenceOf a = sequenceOf b := by
  have hself : ∀ value : Json N, value.distinct = true →
      sequenceOf (canonicalForm value) = sequenceOf value := by
    intro value hdistinct
    rw [sequenceOf, sequenceOf, get?_canonicalForm hdistinct (by decide)]
    cases hfield : value.get? "auditSequence" with
    | none => rfl
    | some field =>
        cases field with
        | number n =>
            rw [Option.map_some, canonicalForm_number]
            split_ifs with hfinite
            · rfl
            · exact (natural_of_infinite hfinite).symm
        | array items =>
            rw [Option.map_some, canonicalForm_array]
        | object fields =>
            rw [Option.map_some, canonicalForm_object]
        | _ => rfl
  rw [← hself a halike.distinct_left, halike.form_eq, hself b halike.distinct_right]

theorem Alike.without {a b : Json N} (halike : Alike a b) (keys : List String) :
    Alike (a.without keys) (b.without keys) where
  distinct_left := Json.without_distinct keys halike.distinct_left
  distinct_right := Json.without_distinct keys halike.distinct_right
  form_eq := by
    rw [canonicalForm_without keys halike.distinct_left, halike.form_eq,
      canonicalForm_without keys halike.distinct_right]

theorem Alike.canonicalJsonStringify_eq {a b : Json N} (halike : Alike a b) :
    canonicalJsonStringify a = canonicalJsonStringify b :=
  (canonicalJsonStringify_eq_iff halike.distinct_left halike.distinct_right).2 halike.form_eq

/-! ### Accepted events -/

def IsOwnKey (key : String) : Prop := key ≠ prototypeKey

/-- What the leaf accepts can be had plain and in the same canonical form. -/
def PlainLeaf (test : Json N → Bool) : Prop :=
  Schema.WholeLeaf canonicalForm (isPlain · = true) test

/-- Every key and every leaf of the schema. -/
abbrev EachPlain (schema : Schema N) : Prop := schema.Each IsOwnKey PlainLeaf

/-- The leaves of the event schema: only plain values pass, or every object does. -/
def PlainOrRecord (test : Json N → Bool) : Prop :=
  (∀ value, test value = true → isPlain value = true) ∨ test = isRecord

theorem isPlain_of_isText {accepts : String → Bool} {value : Json N}
    (htest : isText accepts value = true) : isPlain value = true := by
  cases value with
  | string value => rfl
  | _ => cases htest

theorem isPlain_of_isNullOr {test : Json N → Bool} {value : Json N}
    (hplain : test value = true → isPlain value = true)
    (htest : isNullOr test value = true) : isPlain value = true := by
  cases value with
  | null => rfl
  | _ => exact hplain htest

theorem isPlain_of_isBoolean {value : Json N} (htest : isBoolean value = true) :
    isPlain value = true := by
  cases value with
  | bool value => rfl
  | _ => cases htest

theorem isPlain_of_isFinite {value : Json N} (htest : isFinite value = true) :
    isPlain value = true := by
  cases value with
  | number value => exact htest
  | _ => cases htest

theorem isPlain_of_isPositiveInteger {value : Json N} (htest : isPositiveInteger value = true) :
    isPlain value = true := by
  cases value with
  | number value =>
      by_contra hinfinite
      rw [isPositiveInteger, natural_of_infinite hinfinite] at htest
      cases htest
  | _ => cases htest

theorem isPlain_of_isTextArray {value : Json N} (htest : isTextArray value = true) :
    isPlain value = true := by
  cases value with
  | array items =>
      exact isPlain_array.2 fun item hmem =>
        isPlain_of_isText (List.all_eq_true.1 htest item hmem)
  | _ => cases htest

theorem PlainOrRecord.plainLeaf {test : Json N → Bool} (hleaf : PlainOrRecord test) :
    PlainLeaf test := by
  rcases hleaf with hplain | rfl
  · exact fun value htest hdistinct => ⟨value, htest, rfl, hplain value htest, hdistinct⟩
  · intro value htest hdistinct
    refine ⟨canonicalForm value, ?_, canonicalForm_idem value, isPlain_canonicalForm value,
      canonicalForm_distinct hdistinct⟩
    cases value with
    | object fields =>
        rw [canonicalForm_object]
        rfl
    | _ => cases htest

/-- What such a leaf accepts it accepts as it is printed. -/
theorem PlainOrRecord.printed {test : Json N → Bool} (hleaf : PlainOrRecord test)
    (value : Json N) (htest : test value = true) : test value.printed = true := by
  rcases hleaf with hplain | rfl
  · rwa [Json.printed_eq_self_iff.2 (isPrintable_of_isPlain (hplain value htest))]
  · cases value with
    | object fields =>
        rw [Json.printed_object]
        rfl
    | _ => cases htest

theorem leaf_text (accepts : String → Bool) : PlainOrRecord (N := N) (isText accepts) :=
  .inl fun _ => isPlain_of_isText

theorem leaf_nullable : PlainOrRecord (N := N) (isNullOr (isText fun _ => true)) :=
  .inl fun _ => isPlain_of_isNullOr isPlain_of_isText

theorem leaf_textArray : PlainOrRecord (N := N) isTextArray :=
  .inl fun _ => isPlain_of_isTextArray

theorem leaf_finite : PlainOrRecord (N := N) isFinite := .inl fun _ => isPlain_of_isFinite

theorem leaf_boolean : PlainOrRecord (N := N) isBoolean := .inl fun _ => isPlain_of_isBoolean

theorem leaf_positiveInteger : PlainOrRecord (N := N) isPositiveInteger :=
  .inl fun _ => isPlain_of_isPositiveInteger

theorem leaf_record : PlainOrRecord (N := N) isRecord := .inr rfl

theorem actorInfoSchema_leaves :
    (actorInfoSchema (N := N)).Each IsOwnKey PlainOrRecord := by
  have hmeta : (actorVerificationMetaSchema (N := N)).Each IsOwnKey PlainOrRecord := by
    refine ⟨by simp [keysOf, requiredField], ?_⟩
    simp [Schema.EachShape, Schema.Each, requiredField, anyText, datetime, text, IsOwnKey,
      prototypeKey, leaf_text, leaf_textArray]
  refine ⟨by simp [keysOf, requiredField, optionalField], ?_⟩
  simp [Schema.EachShape, Schema.Each, requiredField, optionalField, text, oneOf, IsOwnKey,
    prototypeKey, leaf_text, leaf_nullable, hmeta]

theorem timestampEvidenceSchema_leaves :
    (timestampEvidenceSchema (N := N)).Each IsOwnKey PlainOrRecord := by
  have hntp : (ntpEvidenceSchema (N := N)).Each IsOwnKey PlainOrRecord := by
    refine ⟨by simp [keysOf, requiredField], ?_⟩
    simp [Schema.EachShape, Schema.Each, requiredField, anyText, text, IsOwnKey, prototypeKey,
      leaf_text, leaf_finite, leaf_boolean]
  have htsa : (tsaEvidenceSchema (N := N)).Each IsOwnKey PlainOrRecord := by
    refine ⟨by simp [keysOf, requiredField, optionalField], ?_⟩
    simp [Schema.EachShape, Schema.Each, requiredField, optionalField, anyText, datetime, oneOf,
      text, IsOwnKey, prototypeKey, leaf_text]
  refine ⟨by simp [keysOf, requiredField, optionalField], ?_⟩
  simp [Schema.EachShape, Schema.Each, requiredField, optionalField, anyText, datetime, oneOf,
    text, IsOwnKey, prototypeKey, leaf_text, hntp, htsa]

theorem auditEventSchema_leaves :
    (auditEventSchema (N := N)).Each IsOwnKey PlainOrRecord := by
  refine ⟨by simp [auditEventShape, keysOf, requiredField, optionalField], ?_⟩
  simp [auditEventShape, Schema.EachShape, Schema.Each, requiredField, optionalField, anyText,
    datetime, oneOf, text, IsOwnKey, prototypeKey, leaf_text, leaf_record, leaf_positiveInteger,
    actorInfoSchema_leaves, timestampEvidenceSchema_leaves]

theorem auditEventSchema_each : EachPlain (auditEventSchema (N := N)) :=
  Schema.Each.imp id PlainOrRecord.plainLeaf auditEventSchema auditEventSchema_leaves

theorem safeParse_printed {raw event : Json N} (hparse : safeParse raw = some event) :
    safeParse raw.printed = some event.printed := by
  have hleaves := Schema.Each.imp id PlainOrRecord.printed auditEventSchema
    (auditEventSchema_leaves (N := N))
  exact Schema.parse_map ⟨Json.printed_object⟩ auditEventSchema hleaves hparse

omit [JsonNumber N] in
/-- A required text of an accepted object: it passed its check, and it stands in what was
read and in what was kept. -/
theorem text_of_parse {strict : Bool} {shape : Schema.Shape N} {raw event : Json N}
    (hnodup : (keysOf shape).Nodup) (hparse : (Schema.object strict shape).parse raw = some event)
    {key : String} {accepts : String → Bool} (hmem : (key, true, text accepts) ∈ shape) :
    accepts (textOf event key) = true ∧ fieldText raw key = some (textOf event key) ∧
      fieldText event key = some (textOf event key) := by
  cases raw with
  | object fields =>
      rw [Schema.parse] at hparse
      obtain ⟨_, hshape⟩ := Option.ite_none_left_eq_some.1 hparse
      obtain ⟨kept, hkept, rfl⟩ := Option.map_eq_some_iff.1 hshape
      rcases Schema.lookup_parseShape hnodup hkept hmem with
        ⟨hneeded, _⟩ | ⟨value, parsed, hvalue, hparsed, hlookup⟩
      · cases hneeded
      · rw [text, Schema.parse] at hparsed
        obtain ⟨htest, heq⟩ := Option.ite_none_right_eq_some.1 hparsed
        cases heq
        cases value with
        | string value =>
            have hraw : fieldText (.object fields) key = some value :=
              congrArg (Option.bind · Json.text?) hvalue
            have hevent : fieldText (.object kept) key = some value :=
              congrArg (Option.bind · Json.text?) hlookup
            rw [textOf, hraw, hevent]
            exact ⟨htest, rfl, rfl⟩
        | _ => cases htest
  | _ => cases hparse

theorem text_of_safeParse {raw event : Json N} (hparse : safeParse raw = some event)
    {key : String} {accepts : String → Bool}
    (hmem : (key, true, text accepts) ∈ auditEventShape (N := N)) :
    accepts (textOf event key) = true ∧ fieldText raw key = some (textOf event key) ∧
      fieldText event key = some (textOf event key) :=
  text_of_parse auditEventSchema_each.1 hparse hmem

theorem distinct_of_safeParse {raw event : Json N} (hdistinct : raw.distinct = true)
    (hparse : safeParse raw = some event) : event.distinct = true :=
  Schema.parse_distinct auditEventSchema auditEventSchema_each hdistinct hparse

theorem chainHash_of_safeParse {raw event : Json N} (hparse : safeParse raw = some event) :
    isSha256Hex (textOf event "chainHash") = true ∧
      fieldText raw "chainHash" = some (textOf event "chainHash") ∧
      fieldText event "chainHash" = some (textOf event "chainHash") :=
  text_of_safeParse hparse (by simp [auditEventShape, requiredField])

theorem prevHash_of_safeParse {raw event : Json N} (hparse : safeParse raw = some event) :
    (isSha256Hex (textOf event "prevHash") || textOf event "prevHash" == genesisHash) = true ∧
      fieldText raw "prevHash" = some (textOf event "prevHash") ∧
      fieldText event "prevHash" = some (textOf event "prevHash") := by
  have hmem : ("prevHash", true, text fun hash => isSha256Hex hash || hash == genesisHash) ∈
      auditEventShape (N := N) := by
    simp [auditEventShape, requiredField]
  exact text_of_safeParse hparse hmem

end GovernedRuntime.Audit
