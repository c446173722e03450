/-
Appending to the audit trail (`src/adapters/persistence-audit.ts`): what the
writer stamps, when it writes, and how the file is read and verified afterwards.
-/
import GovernedRuntime.Audit.TamperEvidence
import GovernedRuntime.Audit.Trail

namespace GovernedRuntime.Audit

open GovernedRuntime.Activation GovernedRuntime.Library GovernedRuntime.State
open Schema (requiredField optionalField)

variable {N : Type} [JsonNumber N]

/-! ### The writer -/

/-- The fields that only the writer sets. -/
def positionalFields : List String :=
  ["auditFormatVersion", "auditSequence", "recordedAt", "semanticEventDigest", "prevHash",
    "chainHash"]

def auditEventBodyShape : Schema.Shape N :=
  auditEventShape.filter fun property => !positionalFields.contains property.1

/-- `AuditEventBodySchema.safeParse`: the schema is loose, so the other fields stay. -/
def safeParseBody : Json N → Option (Json N)
  | .object fields =>
      (Schema.parseShape auditEventBodyShape fields).map fun kept =>
        .object (kept ++ ownFields
          (fields.filter fun field => !(keysOf (auditEventBodyShape (N := N))).contains field.1))
  | _ => none

def normalizeCurrentAuditBody (event : Json N) : Json N :=
  (event.without positionalFields).withFields
    [("auditFormatVersion", .string currentAuditFormatVersion)]

def bodyWithPosition (existingEvents : List (Json N)) (event : Json N) (now : String) : Json N :=
  (normalizeCurrentAuditBody event).withFields
    [("auditSequence", .number (JsonNumber.ofNat (existingEvents.length + 1))),
      ("recordedAt", .string now), ("prevHash", .string (getLastChainHash existingEvents))]

def finalizedBody (hashText : String → String) (existingEvents : List (Json N)) (event : Json N)
    (now : String) : Json N :=
  let positioned := bodyWithPosition existingEvents event now
  positioned.withFields
    [("semanticEventDigest", .string (computeCanonicalEventDigest hashText positioned))]

def chainedEvent (hashText : String → String) (existingEvents : List (Json N)) (event : Json N)
    (now : String) : Json N :=
  let finalized := finalizedBody hashText existingEvents event now
  finalized.withFields
    [("chainHash", .string (computeChainHash hashText (textOf finalized "prevHash") finalized))]

/-- The schema's own report follows each text. -/
def invalidBody : AuditError :=
  ⟨"SCHEMA_VALIDATION_FAILED", "Refusing to append invalid audit event body: "⟩

def duplicateId (id : String) : AuditError :=
  ⟨"SCHEMA_VALIDATION_FAILED",
    "Refusing to append audit event with duplicate id " ++ id ++ " and different content"⟩

def invalidChainedEvent : AuditError :=
  ⟨"SCHEMA_VALIDATION_FAILED", "Refusing to append invalid chained audit event: "⟩

/-- `appendAuditLineCore` on the text of the file, which is empty when there is
none: the text it leaves and the event it returns. -/
def appendAuditLineCore (hashText : String → String) (existing : String) (event : Json N)
    (now : String) : Except AuditError (String × Json N) := do
  let existingEvents ← parseAuditTrail existing
  match existingEvents.find? fun candidate => textOf candidate "id" == textOf event "id" with
  | some sameId =>
      if computeCanonicalEventDigest hashText (normalizeCurrentAuditBody sameId) ==
          computeCanonicalEventDigest hashText (normalizeCurrentAuditBody event) then
        .ok (existing, sameId)
      else .error (duplicateId (textOf event "id"))
  | none =>
      match safeParse (chainedEvent hashText existingEvents event now) with
      | none => .error invalidChainedEvent
      | some data => .ok (withRecord existing data, data)

def appendAuditEvent (hashText : String → String) (existing : String) (event : Json N)
    (now : String) : Except AuditError (String × Json N) :=
  match safeParseBody event with
  | none => .error invalidBody
  | some body => appendAuditLineCore hashText existing body now

/-! ### What the writer stamps -/

/-- The fields of an event that its producer sets. -/
def contentFields (event : Json N) : List (String × Json N) :=
  event.fields.filter fun field => !positionalFields.contains field.1

def stampedFields (hashText : String → String) (existingEvents : List (Json N))
    (event : Json N) (now : String) : List (String × Json N) :=
  [("auditFormatVersion", .string currentAuditFormatVersion),
    ("auditSequence", .number (JsonNumber.ofNat (existingEvents.length + 1))),
    ("recordedAt", .string now), ("prevHash", .string (getLastChainHash existingEvents)),
    ("semanticEventDigest",
      .string (computeCanonicalEventDigest hashText (bodyWithPosition existingEvents event now))),
    ("chainHash",
      .string (computeChainHash hashText (getLastChainHash existingEvents)
        (finalizedBody hashText existingEvents event now)))]

omit [JsonNumber N] in
theorem lookup_contentFields {event : Json N} {key : String} (hkey : key ∈ positionalFields)
    (more : List (String × Json N)) :
    (contentFields event ++ more).lookup key = more.lookup key := by
  rw [List.lookup_append, contentFields, Json.lookup_without, if_pos hkey, Option.none_or]

theorem finalizedBody_eq {event : Json N} (hobject : isRecord event = true)
    (hashText : String → String) (existingEvents : List (Json N)) (now : String) :
    finalizedBody hashText existingEvents event now =
      .object (contentFields event ++
        (stampedFields hashText existingEvents event now).dropLast) := by
  cases event with
  | object fields =>
      have happend : ∀ (content : List (String × Json N)) (a b c d e : String × Json N),
          content ++ [a] ++ [b, c, d] ++ [e] = content ++ [a, b, c, d, e] := by simp
      exact congrArg Json.object (happend _ _ _ _ _ _)
  | _ => cases hobject

/-- The event the writer checks: the producer's content, then its own fields. -/
theorem chainedEvent_eq {event : Json N} (hobject : isRecord event = true)
    (hashText : String → String) (existingEvents : List (Json N)) (now : String) :
    chainedEvent hashText existingEvents event now =
      .object (contentFields event ++ stampedFields hashText existingEvents event now) := by
  have hfinalized := finalizedBody_eq hobject hashText existingEvents now
  have hprev : textOf (finalizedBody hashText existingEvents event now) "prevHash" =
      getLastChainHash existingEvents := by
    rw [textOf, fieldText, hfinalized, Json.get?, Json.fields, lookup_contentFields (by decide)]
    rfl
  have happend : ∀ (content : List (String × Json N)) (a b c d e f : String × Json N),
      content ++ [a, b, c, d, e] ++ [f] = content ++ [a, b, c, d, e, f] := by simp
  have hwith : ∀ {value : Json N} {fields : List (String × Json N)}, value = .object fields →
      ∀ more, value.withFields more = .object (fields ++ more) := by
    rintro _ fields rfl more
    rfl
  rw [chainedEvent, hprev]
  exact (hwith hfinalized _).trans (congrArg Json.object (happend _ _ _ _ _ _ _))

/-! ### What the writer accepts -/

theorem positional_property {property : String × Bool × Schema N}
    (hmem : property ∈ auditEventShape) (hkey : property.1 ∈ positionalFields) :
    property ∈ [requiredField "auditFormatVersion" (oneOf [currentAuditFormatVersion]),
      requiredField "auditSequence" (.leaf isPositiveInteger),
      requiredField "recordedAt" datetime,
      requiredField "prevHash" (text fun hash => isSha256Hex hash || hash == genesisHash),
      requiredField "semanticEventDigest" (text isSha256Hex),
      requiredField "chainHash" (text isSha256Hex)] := by
  have hfilter : property ∈ (auditEventShape (N := N)).filter
      fun property => positionalFields.contains property.1 :=
    List.mem_filter.2 ⟨hmem, List.contains_iff_mem.2 hkey⟩
  exact hfilter

/-- The hash a chain goes on with has the form a record must have. -/
theorem getLastChainHash_form {events : List (Json N)}
    (hevents : ∀ event ∈ events, safeParse event = some event) :
    (isSha256Hex (getLastChainHash events) || getLastChainHash events == genesisHash) = true := by
  rw [getLastChainHash]
  rcases hfind : events.reverse.find? isChainedEvent with _ | event
  · rw [Option.map_none, Option.getD_none]
    decide
  · have hmem := List.mem_reverse.1 (List.mem_of_find?_eq_some hfind)
    have hhex := (chainHash_of_safeParse (hevents event hmem)).1
    rw [Option.map_some, Option.getD_some, hhex, Bool.true_or]

/-- An instant as the clock writes it. -/
def IsInstant (now : String) : Prop := (dateParse now).isSome = true

/-- What the writer's own fields need to be accepted. -/
structure Writable (hashText : String → String) (existingEvents : List (Json N))
    (now : String) : Prop where
  hex : ∀ content, isSha256Hex (hashText content) = true
  room : existingEvents.length < maxExactNat
  instant : IsInstant now
  events : ∀ event ∈ existingEvents, safeParse event = some event

theorem stampedFields_accepted {hashText : String → String} {existingEvents : List (Json N)}
    {now : String} (hwritable : Writable hashText existingEvents now) (event : Json N)
    {property : String × Bool × Schema N} (hmem : property ∈ auditEventShape)
    (hkey : property.1 ∈ positionalFields) :
    ∃ value, (stampedFields hashText existingEvents event now).lookup property.1 = some value ∧
      property.2.2.parse value = some value ∧ property.2.2.covers value = true := by
  have hleaf : ∀ {test : Json N → Bool} {value : Json N}, test value = true →
      (Schema.leaf test).parse value = some value ∧ (Schema.leaf test).covers value = true :=
    fun htest => ⟨if_pos htest, rfl⟩
  have hproperty := positional_property hmem hkey
  simp only [List.mem_cons, List.not_mem_nil, or_false] at hproperty
  rcases hproperty with rfl | rfl | rfl | rfl | rfl | rfl
  · exact ⟨_, rfl, hleaf rfl⟩
  · refine ⟨_, rfl, hleaf ?_⟩
    have hroom := hwritable.room
    rw [isPositiveInteger, JsonNumber.natural_ofNat hwritable.room, Option.any_some, isPositiveInt,
      Bool.and_eq_true, decide_eq_true_eq, decide_eq_true_eq]
    exact ⟨Nat.succ_pos _, hroom⟩
  · exact ⟨_, rfl, hleaf hwritable.instant⟩
  · exact ⟨_, rfl, hleaf (getLastChainHash_form hwritable.events)⟩
  · exact ⟨_, rfl, hleaf (hwritable.hex _)⟩
  · exact ⟨_, rfl, hleaf (hwritable.hex _)⟩

theorem mem_keysOf_bodyShape {key : String} :
    key ∈ keysOf (auditEventBodyShape (N := N)) ↔
      key ∈ keysOf (auditEventShape (N := N)) ∧ key ∉ positionalFields := by
  have hnot : ∀ key : String, (!positionalFields.contains key) = true ↔ key ∉ positionalFields := by
    simp
  simp only [keysOf, auditEventBodyShape, List.mem_map, List.mem_filter, hnot]
  constructor
  · rintro ⟨property, ⟨hmem, hkey⟩, rfl⟩
    exact ⟨⟨property, hmem, rfl⟩, hkey⟩
  · rintro ⟨⟨property, hmem, rfl⟩, hkey⟩
    exact ⟨property, ⟨hmem, hkey⟩, rfl⟩

theorem auditEventBodyShape_each :
    Schema.EachShape IsOwnKey PlainLeaf (auditEventBodyShape (N := N)) := by
  have hfilter : ∀ shape : Schema.Shape N, Schema.EachShape IsOwnKey PlainLeaf shape →
      Schema.EachShape IsOwnKey PlainLeaf
        (shape.filter fun property => !positionalFields.contains property.1) := by
    intro shape heach
    induction shape with
    | nil => exact trivial
    | cons property rest ih =>
        obtain ⟨key, needed, schema⟩ := property
        rw [List.filter_cons]
        split_ifs
        · exact ⟨heach.1, heach.2.1, ih heach.2.2⟩
        · exact ih heach.2.2
  exact hfilter _ auditEventSchema_each.2

theorem keysOf_bodyShape_nodup : (keysOf (auditEventBodyShape (N := N))).Nodup :=
  auditEventSchema_each.1.sublist (List.filter_sublist.map Prod.fst)

/-- A body as the schema leaves it: the fields it names, and others. -/
theorem safeParseBody_eq_some {event body : Json N} (hdistinct : event.distinct = true)
    (hbody : safeParseBody event = some body) :
    ∃ fields kept extra, event = .object fields ∧ body = .object (kept ++ extra) ∧
      Schema.parseShape auditEventBodyShape fields = some kept ∧
      (∀ field ∈ extra, field.1 ∉ keysOf (auditEventBodyShape (N := N))) ∧
      body.distinct = true := by
  cases event with
  | object fields =>
      obtain ⟨kept, hkept, rfl⟩ := Option.map_eq_some_iff.1 hbody
      obtain ⟨hnodup, hvalues⟩ := Json.distinct_object.1 hdistinct
      have hextra : ∀ field ∈ ownFields (fields.filter fun field =>
          !(keysOf (auditEventBodyShape (N := N))).contains field.1),
          field ∈ fields ∧ field.1 ∉ keysOf (auditEventBodyShape (N := N)) := by
        intro field hmem
        have hfield := List.mem_filter.1 (List.mem_filter.1 hmem).1
        exact ⟨hfield.1, by simpa using hfield.2⟩
      refine ⟨fields, kept, _, rfl, rfl, hkept, fun field hmem => (hextra field hmem).2, ?_⟩
      have hsublist := Schema.keysOf_parseShape hkept
      refine Json.distinct_object.2 ⟨?_, List.forall_mem_append.2
        ⟨Schema.parseShape_distinct _ auditEventBodyShape_each hvalues hkept,
          fun field hmem => hvalues field (hextra field hmem).1⟩⟩
      rw [keysOf, List.map_append, List.nodup_append]
      refine ⟨keysOf_bodyShape_nodup.sublist hsublist,
        hnodup.sublist ((List.filter_sublist.trans List.filter_sublist).map Prod.fst), ?_⟩
      rintro key hkey _ hother rfl
      obtain ⟨field, hfield, rfl⟩ := List.mem_map.1 hother
      exact (hextra field hfield).2 (hsublist.subset hkey)
  | _ => cases hbody

/-- The producer set no field that the event schema does not name. -/
def namesEventFields (body : Json N) : Bool :=
  Schema.namesAll (auditEventShape (N := N)) (contentFields body)

theorem contentFields_of_names {event body : Json N} (hdistinct : event.distinct = true)
    (hbody : safeParseBody event = some body) (hnames : namesEventFields body = true) :
    ∃ fields, event = .object fields ∧
      Schema.parseShape auditEventBodyShape fields = some (contentFields body) := by
  obtain ⟨fields, kept, extra, rfl, rfl, hkept, hextra, _⟩ := safeParseBody_eq_some hdistinct hbody
  refine ⟨fields, rfl, ?_⟩
  have hkeep : kept.filter (fun field => !positionalFields.contains field.1) = kept := by
    apply List.filter_eq_self.2
    intro field hmem
    have hkey := (Schema.keysOf_parseShape hkept).subset (List.mem_map_of_mem hmem)
    simpa using (mem_keysOf_bodyShape.1 hkey).2
  have hnone : extra.filter (fun field => !positionalFields.contains field.1) = [] := by
    apply List.filter_eq_nil_iff.2
    intro field hmem hpositional
    have hname := List.all_eq_true.1 hnames field.1 (List.mem_map_of_mem
      (List.mem_filter.2 ⟨List.mem_append_right kept hmem, hpositional⟩))
    exact hextra field hmem (mem_keysOf_bodyShape.2
      ⟨List.contains_iff_mem.1 hname, by simpa using hpositional⟩)
  have hcontent : contentFields (.object (kept ++ extra)) = kept := by
    change (kept ++ extra).filter _ = kept
    rw [List.filter_append, hkeep, hnone, List.append_nil]
  rw [hcontent]
  exact hkept

theorem isRecord_of_safeParseBody {event body : Json N} (hdistinct : event.distinct = true)
    (hbody : safeParseBody event = some body) :
    isRecord body = true ∧ body.distinct = true := by
  obtain ⟨_, kept, extra, _, rfl, _, _, hbodyDistinct⟩ := safeParseBody_eq_some hdistinct hbody
  exact ⟨rfl, hbodyDistinct⟩

omit [JsonNumber N] in
theorem keysOf_contentFields_sublist (event : Json N) :
    (keysOf (contentFields event)).Sublist (keysOf event.fields) :=
  List.filter_sublist.map Prod.fst

theorem mem_stampedFields (hashText : String → String) (existingEvents : List (Json N))
    (event : Json N) (now : String) :
    ∀ field ∈ stampedFields hashText existingEvents event now,
      field.1 ∈ positionalFields ∧ field.2.distinct = true := by
  simp only [stampedFields, List.forall_mem_cons]
  simp [positionalFields, Json.distinct, Json.fold]

theorem chainedEvent_distinct {event : Json N} (hobject : isRecord event = true)
    (hdistinct : event.distinct = true) (hashText : String → String)
    (existingEvents : List (Json N)) (now : String) :
    (chainedEvent hashText existingEvents event now).distinct = true := by
  rw [chainedEvent_eq hobject]
  cases event with
  | object fields =>
      obtain ⟨hnodup, hvalues⟩ := Json.distinct_object.1 hdistinct
      have hstamped := mem_stampedFields hashText existingEvents (.object fields) now
      refine Json.distinct_object.2 ⟨?_, List.forall_mem_append.2
        ⟨fun field hmem => hvalues field (List.mem_filter.1 hmem).1,
          fun field hmem => (hstamped field hmem).2⟩⟩
      rw [keysOf, List.map_append, List.nodup_append]
      refine ⟨hnodup.sublist (keysOf_contentFields_sublist _), by simp [stampedFields], ?_⟩
      rintro key hkey _ hother rfl
      obtain ⟨field, hfield, rfl⟩ := List.mem_map.1 hother
      obtain ⟨other, hcontent, hname⟩ := List.mem_map.1 hkey
      have hpositional := (hstamped field hfield).1
      have hkept := (List.mem_filter.1 hcontent).2
      rw [hname] at hkept
      simp [hpositional] at hkept
  | _ => cases hobject

theorem namesAll_chained {event : Json N} (hashText : String → String)
    (existingEvents : List (Json N)) (now : String) :
    Schema.namesAll (auditEventShape (N := N))
      (contentFields event ++ stampedFields hashText existingEvents event now) =
        namesEventFields event := by
  have hstamped : (keysOf (stampedFields hashText existingEvents event now)).all
      (keysOf (auditEventShape (N := N))).contains = true := by
    simp [stampedFields, keysOf, auditEventShape, requiredField, optionalField]
  rw [Schema.namesAll, keysOf, List.map_append, List.all_append]
  exact (congrArg _ hstamped).trans (Bool.and_true _)

/-- The writer refuses a field that the event schema does not name. -/
theorem safeParse_chainedEvent_eq_none {event : Json N} (hobject : isRecord event = true)
    (hnames : namesEventFields event = false) (hashText : String → String)
    (existingEvents : List (Json N)) (now : String) :
    safeParse (chainedEvent hashText existingEvents event now) = none := by
  rw [chainedEvent_eq hobject, safeParse, auditEventSchema, Schema.parse, namesAll_chained,
    hnames]
  rfl

/-- Without one it accepts the event, and nothing of it is outside the schema. -/
theorem exists_safeParse_chainedEvent {hashText : String → String}
    {existingEvents : List (Json N)} {now : String}
    (hwritable : Writable hashText existingEvents now) {event body : Json N}
    (hdistinct : event.distinct = true) (hbody : safeParseBody event = some body)
    (hnames : namesEventFields body = true) :
    (∃ data, safeParse (chainedEvent hashText existingEvents body now) = some data) ∧
      auditEventSchema.covers (chainedEvent hashText existingEvents body now) = true := by
  obtain ⟨fields, rfl, hkept⟩ := contentFields_of_names hdistinct hbody hnames
  obtain ⟨hobject, _⟩ := isRecord_of_safeParseBody hdistinct hbody
  have hvalues := (Json.distinct_object.1 hdistinct).2
  have hproperty : ∀ property ∈ auditEventShape (N := N),
      ((contentFields body ++ stampedFields hashText existingEvents body now).lookup property.1 =
          none ∧ property.2.1 = false) ∨
        ∃ value, (contentFields body ++
            stampedFields hashText existingEvents body now).lookup property.1 = some value ∧
          property.2.2.parse value = some value ∧ property.2.2.covers value = true := by
    rintro ⟨key, needed, schema⟩ hmem
    by_cases hkey : key ∈ positionalFields
    · rw [lookup_contentFields hkey]
      exact .inr (stampedFields_accepted hwritable body hmem hkey)
    · have hbodyMem : (key, needed, schema) ∈ auditEventBodyShape (N := N) :=
        List.mem_filter.2 ⟨hmem, by simpa using hkey⟩
      have hstamped : (stampedFields hashText existingEvents body now).lookup key = none := by
        apply List.lookup_eq_none_iff.2
        intro field hfield
        rw [bne_iff_ne]
        rintro rfl
        exact hkey (mem_stampedFields hashText existingEvents body now field hfield).1
      rw [List.lookup_append, hstamped, Option.or_none]
      rcases Schema.lookup_parseShape keysOf_bodyShape_nodup hkept hbodyMem with
        ⟨hneeded, _, hnone⟩ | ⟨value, parsed, hvalue, hparsed, hlookup⟩
      · exact .inl ⟨hnone, hneeded⟩
      · have heach := auditEventBodyShape_each.of_mem hbodyMem
        exact .inr ⟨parsed, hlookup,
          Schema.parse_kept heach (hvalues _ (mem_of_lookup hvalue)) hparsed⟩
  rw [chainedEvent_eq hobject]
  constructor
  · have hsome := Schema.parseShape_isSome fun property hmem =>
      (hproperty property hmem).imp_right fun ⟨value, hvalue, hparse, _⟩ =>
        ⟨value, hvalue, Option.isSome_iff_exists.2 ⟨value, hparse⟩⟩
    obtain ⟨data, hdata⟩ := Option.isSome_iff_exists.1 hsome
    refine ⟨.object data, ?_⟩
    rw [safeParse, auditEventSchema, Schema.parse, namesAll_chained, hnames, hdata]
    rfl
  · rw [auditEventSchema, Schema.covers, namesAll_chained, hnames, Bool.true_and]
    apply Schema.coversShape_of_forall
    intro property hmem value hvalue
    rcases hproperty property hmem with ⟨hnone, _⟩ | ⟨value', hvalue', _, hcovers⟩
    · rw [hnone] at hvalue
      cases hvalue
    · rw [hvalue'] at hvalue
      cases hvalue
      exact hcovers

/-! ### The event that is recorded -/

omit [JsonNumber N] in
/-- Behind the producer's content only the writer's own fields stand. -/
theorem get?_contentFields (event : Json N) {more : List (String × Json N)}
    (hmore : ∀ field ∈ more, field.1 ∈ positionalFields) {key : String} :
    (Json.object (contentFields event ++ more)).get? key =
      if key ∈ positionalFields then more.lookup key else event.get? key := by
  rw [Json.get?, Json.fields]
  split_ifs with hkey
  · exact lookup_contentFields hkey _
  · have hnone : more.lookup key = none := by
      apply List.lookup_eq_none_iff.2
      intro field hfield
      rw [bne_iff_ne]
      rintro rfl
      exact hkey (hmore field hfield)
    rw [List.lookup_append, hnone, Option.or_none, contentFields, Json.lookup_without,
      if_neg hkey]
    rfl

theorem get?_chainedEvent {event : Json N} (hobject : isRecord event = true)
    (hashText : String → String) (existingEvents : List (Json N)) (now : String) {key : String} :
    (chainedEvent hashText existingEvents event now).get? key =
      if key ∈ positionalFields then
        (stampedFields hashText existingEvents event now).lookup key
      else event.get? key := by
  rw [chainedEvent_eq hobject]
  exact get?_contentFields event fun field hmem =>
    (mem_stampedFields hashText existingEvents event now field hmem).1

/-- What the writer returns for an event it takes: what it checked, up to the
order of fields. -/
structure Recorded (hashText : String → String) (existingEvents : List (Json N))
    (event : Json N) (now : String) (data : Json N) : Prop where
  distinct : data.distinct = true
  kept : safeParse data = some data
  same : Json.SameValue data (chainedEvent hashText existingEvents event now)
  alike : Alike data (chainedEvent hashText existingEvents event now)

theorem recorded_of_safeParse {hashText : String → String} {existingEvents : List (Json N)}
    {event data : Json N} {now : String} (hobject : isRecord event = true)
    (hdistinct : event.distinct = true)
    (hcovers : auditEventSchema.covers (chainedEvent hashText existingEvents event now) = true)
    (hparse : safeParse (chainedEvent hashText existingEvents event now) = some data) :
    Recorded hashText existingEvents event now data := by
  have hchained := chainedEvent_distinct hobject hdistinct hashText existingEvents now
  have hdata := distinct_of_safeParse hchained hparse
  have hsame := Schema.sameValue_of_covers auditEventSchema auditEventSchema_each hchained
    hcovers hparse
  refine ⟨hdata, (Schema.parse_kept auditEventSchema_each hchained hparse).1, hsame, hdata,
    hchained, ?_⟩
  rw [← canonicalForm_sortKeys hdata, hsame, canonicalForm_sortKeys hchained]

namespace Recorded

variable {hashText : String → String} {existingEvents : List (Json N)} {event data : Json N}
  {now : String}

theorem fieldText_eq (hrecorded : Recorded hashText existingEvents event now data)
    (hobject : isRecord event = true) {key : String} (hkey : key ≠ prototypeKey) :
    fieldText data key =
      (if key ∈ positionalFields then
        (stampedFields hashText existingEvents event now).lookup key
      else event.get? key).bind Json.text? := by
  rw [hrecorded.alike.fieldText_eq hkey, fieldText, get?_chainedEvent hobject]

/-- The producer's fields are recorded as they are. -/
theorem textOf_content (hrecorded : Recorded hashText existingEvents event now data)
    (hobject : isRecord event = true) {key : String} (hkey : key ≠ prototypeKey)
    (hcontent : key ∉ positionalFields) : textOf data key = textOf event key := by
  rw [textOf, hrecorded.fieldText_eq hobject hkey, if_neg hcontent]
  rfl

theorem without_chainHash (hobject : isRecord event = true) :
    (chainedEvent hashText existingEvents event now).without ["chainHash"] =
      finalizedBody hashText existingEvents event now := by
  rw [chainedEvent_eq hobject, finalizedBody_eq hobject, Json.without, List.filter_append]
  have hcontent : (contentFields event).filter (fun field => !(["chainHash"].contains field.1)) =
      contentFields event := by
    apply List.filter_eq_self.2
    intro field hmem
    have hkept := (List.mem_filter.1 hmem).2
    by_contra hname
    simp at hname
    simp [hname, positionalFields] at hkept
  rw [hcontent]
  rfl

/-- The writer's own fields, the format version apart, are outside the digest. -/
theorem canonicalEventContent_append {more more' : List (String × Json N)}
    (hmore : more.filter (fun field => !excludedFields.contains field.1) =
      more'.filter fun field => !excludedFields.contains field.1) :
    canonicalEventContent (.object (contentFields event ++ more)) =
      canonicalEventContent (.object (contentFields event ++ more')) := by
  rw [canonicalEventContent, canonicalEventContent, Json.without, Json.without,
    List.filter_append, List.filter_append, hmore]

omit [JsonNumber N] in
theorem normalizeCurrentAuditBody_eq (hobject : isRecord event = true) :
    normalizeCurrentAuditBody event =
      .object (contentFields event ++
        [("auditFormatVersion", .string currentAuditFormatVersion)]) := by
  cases event with
  | object fields => rfl
  | _ => cases hobject

theorem bodyWithPosition_eq (hobject : isRecord event = true) :
    bodyWithPosition existingEvents event now =
      .object (contentFields event ++
        [("auditFormatVersion", .string currentAuditFormatVersion),
          ("auditSequence", .number (JsonNumber.ofNat (existingEvents.length + 1))),
          ("recordedAt", .string now),
          ("prevHash", .string (getLastChainHash existingEvents))]) := by
  rw [bodyWithPosition, normalizeCurrentAuditBody_eq hobject]
  exact congrArg Json.object (List.append_assoc _ _ _)

theorem canonicalEventContent_chained (hobject : isRecord event = true) :
    canonicalEventContent (chainedEvent hashText existingEvents event now) =
      canonicalEventContent (normalizeCurrentAuditBody event) := by
  rw [chainedEvent_eq hobject, normalizeCurrentAuditBody_eq hobject]
  exact canonicalEventContent_append rfl

theorem canonicalEventContent_positioned (hobject : isRecord event = true) :
    canonicalEventContent (bodyWithPosition existingEvents event now) =
      canonicalEventContent (normalizeCurrentAuditBody event) := by
  rw [bodyWithPosition_eq hobject, normalizeCurrentAuditBody_eq hobject]
  exact canonicalEventContent_append rfl

theorem canonicalEventContent_eq (hrecorded : Recorded hashText existingEvents event now data)
    (hobject : isRecord event = true) :
    canonicalEventContent data = canonicalEventContent (normalizeCurrentAuditBody event) := by
  rw [← canonicalEventContent_chained hobject, canonicalEventContent, canonicalEventContent,
    (hrecorded.alike.without excludedFields).canonicalJsonStringify_eq]

/-- The recorded event passes every check that follows the chain. -/
theorem verified (hrecorded : Recorded hashText existingEvents event now data)
    (hobject : isRecord event = true) (hroom : existingEvents.length < maxExactNat) :
    Verified hashText data (getLastChainHash existingEvents) existingEvents.length := by
  have hstamped : ∀ {key : String} {value : Json N}, key ≠ prototypeKey → key ∈ positionalFields →
      (stampedFields hashText existingEvents event now).lookup key = some value →
      fieldText data key = value.text? := by
    intro key value hprototype hkey hlookup
    rw [hrecorded.fieldText_eq hobject hprototype, if_pos hkey, hlookup, Option.bind_some]
  have hprev : textOf data "prevHash" = getLastChainHash existingEvents := by
    rw [textOf, hstamped (by decide) (by decide) rfl]
    rfl
  refine ⟨?_, hprev, ?_, ?_, ?_⟩
  · rw [textOf, hstamped (by decide) (by decide) rfl]
    rfl
  · have hchainHash : textOf data "chainHash" =
        computeChainHash hashText (getLastChainHash existingEvents)
          (finalizedBody hashText existingEvents event now) := by
      rw [textOf, hstamped (by decide) (by decide) rfl]
      rfl
    rw [hprev, hchainHash, ← without_chainHash hobject, computeChainHash, computeChainHash,
      chainHashInput, chainHashInput,
      (hrecorded.alike.without ["chainHash"]).canonicalJsonStringify_eq]
  · have hsequence : (chainedEvent hashText existingEvents event now).get? "auditSequence" =
        some (.number (JsonNumber.ofNat (existingEvents.length + 1))) := by
      rw [get?_chainedEvent hobject]
      rfl
    rw [hrecorded.alike.sequenceOf_eq, sequenceOf, hsequence]
    exact JsonNumber.natural_ofNat hroom
  · have hdigest : textOf data "semanticEventDigest" =
        computeCanonicalEventDigest hashText (bodyWithPosition existingEvents event now) := by
      rw [textOf, hstamped (by decide) (by decide) rfl]
      rfl
    rw [hdigest, computeCanonicalEventDigest, computeCanonicalEventDigest,
      hrecorded.canonicalEventContent_eq hobject,
      canonicalEventContent_positioned hobject]

omit [JsonNumber N] in
theorem get?_normalized (hobject : isRecord event = true) {key : String} :
    (normalizeCurrentAuditBody event).get? key =
      if key ∈ positionalFields then
        [("auditFormatVersion", (.string currentAuditFormatVersion : Json N))].lookup key
      else event.get? key := by
  rw [normalizeCurrentAuditBody_eq hobject]
  exact get?_contentFields event (by simp [positionalFields])

/-- The evidence of the recorded event is judged as that of the body. -/
theorem evidencePasses_iff (hrecorded : Recorded hashText existingEvents event now data)
    (hobject : isRecord event = true) :
    EvidencePasses hashText data ↔ EvidencePasses hashText (normalizeCurrentAuditBody event) := by
  have hcontent : ∀ {key : String}, key ∉ positionalFields →
      (chainedEvent hashText existingEvents event now).get? key =
        (normalizeCurrentAuditBody event).get? key := by
    intro key hkey
    rw [get?_chainedEvent hobject, if_neg hkey, get?_normalized hobject, if_neg hkey]
  have hdigest : computeCanonicalEventDigest hashText
      (chainedEvent hashText existingEvents event now) =
      computeCanonicalEventDigest hashText (normalizeCurrentAuditBody event) :=
    congrArg hashText (canonicalEventContent_chained hobject)
  have hstored : fieldText (chainedEvent hashText existingEvents event now)
      "semanticEventDigest" =
      some (computeCanonicalEventDigest hashText (normalizeCurrentAuditBody event)) := by
    rw [fieldText, get?_chainedEvent hobject]
    exact congrArg (some ∘ hashText) (canonicalEventContent_positioned hobject)
  have hunset : fieldText (normalizeCurrentAuditBody event) "semanticEventDigest" = none := by
    rw [fieldText, get?_normalized hobject]
    rfl
  have hevidence := @hcontent "timestampEvidence" (by decide)
  have hkind : textOf (chainedEvent hashText existingEvents event now) "event" =
      textOf (normalizeCurrentAuditBody event) "event" := by
    rw [textOf, textOf, fieldText, fieldText, hcontent (by decide)]
  have himprint : (verifyTsaMessageImprint hashText
      (chainedEvent hashText existingEvents event now)) =
      verifyTsaMessageImprint hashText (normalizeCurrentAuditBody event) := by
    have htruthy : (truthy (some (computeCanonicalEventDigest hashText
        (normalizeCurrentAuditBody event)))).any
        (· != computeCanonicalEventDigest hashText (normalizeCurrentAuditBody event)) = false := by
      rw [truthy, Option.filter_some]
      split_ifs <;> simp
    have hnone : (truthy none).any
        (· != computeCanonicalEventDigest hashText (normalizeCurrentAuditBody event)) = false := rfl
    simp only [verifyTsaMessageImprint, hevidence, hdigest, hstored, hunset, htruthy, hnone]
  have hmissing : missesCriticalEvidence ["decision", "lifecycle"]
      (chainedEvent hashText existingEvents event now) =
      missesCriticalEvidence ["decision", "lifecycle"] (normalizeCurrentAuditBody event) := by
    simp only [missesCriticalEvidence, hkind, hevidence]
  rw [EvidencePasses, EvidencePasses, hrecorded.alike.verifyTsaMessageImprint_eq,
    hrecorded.alike.missesCriticalEvidence_eq, himprint, hmissing]

end Recorded

/-! ### What appending keeps -/

def idsOf (events : List (Json N)) : List String := events.map (textOf · "id")

def accepted (hashText : String → String) (options : ChainVerifyOptions)
    (events : List (Json N)) : Prop :=
  (verifyChain hashText events options).valid = true

/-- The trail, and the session verification expects, are those of the body. -/
structure SameSession (options : ChainVerifyOptions) (events : List (Json N)) (body : Json N) :
    Prop where
  events : ∀ event ∈ events,
    textOf event "flowguardSessionId" = textOf body "flowguardSessionId"
  expected : ∀ session ∈ truthy options.expectedFlowguardSessionId,
    session = textOf body "flowguardSessionId"

/-- The clock is not before the last record. -/
def ClockReached (events : List (Json N)) (now : String) : Prop :=
  ∀ earlier ∈ lastRecorded none events, ∀ instant ∈ dateParse now, earlier ≤ instant

/-- The event did not occur after it is recorded. -/
def OccurredBy (now : String) (body : Json N) : Prop :=
  ∀ occurred ∈ dateParse (textOf body "occurredAt"), ∀ instant ∈ dateParse now,
    occurred ≤ instant

theorem events_of_numberedEvents {events : List (Json N)}
    (hevents : ∀ event ∈ events, safeParse event = some event) (index : Nat) :
    (numberedEvents index events).map Prod.snd = events := by
  induction events generalizing index with
  | nil => rfl
  | cons event rest ih =>
      rw [List.forall_mem_cons] at hevents
      simp only [numberedEvents, hevents.1, List.map_cons, ih hevents.2]

theorem Chained.session_eq {hashText : String → String} {options : ChainVerifyOptions}
    {events : List (Json N)} {lastHash : String} {session : Option String} {body : Json N}
    (hchained : Chained hashText options.expectedFlowguardSessionId events lastHash session)
    (hevents : ∀ event ∈ events, safeParse event = some event)
    (hsession : SameSession options events body) :
    ∀ name ∈ truthy session, name = textOf body "flowguardSessionId" := by
  cases hchained with
  | nil => exact hsession.expected
  | @snoc raws _ session raw event _ hparse _ hname =>
      have hraw := hevents raw (by simp)
      rw [hraw, Option.some_inj] at hparse
      subst hparse
      have htext := hsession.events raw (by simp)
      intro name hmem
      rw [← hname, htext] at hmem
      exact (Option.mem_filter_iff.1 hmem).1 |> Option.some.inj |> Eq.symm

theorem datetime_of_safeParse {raw event : Json N} (hparse : safeParse raw = some event) :
    (dateParse (textOf event "occurredAt")).isSome = true := by
  have hmem : ("occurredAt", true, text fun value => (dateParse value).isSome) ∈
      auditEventShape (N := N) := by
    simp [auditEventShape, requiredField, datetime]
  exact (text_of_safeParse hparse hmem).1

theorem Recorded.recordedAfter_iff {hashText : String → String} {events : List (Json N)}
    {body data : Json N} {now : String} (hrecorded : Recorded hashText events body now data)
    (hobject : isRecord body = true) (hnow : IsInstant now) (hclock : ClockReached events now) :
    RecordedAfter (lastRecorded none events) data ↔ OccurredBy now body := by
  have hrecordedAt : textOf data "recordedAt" = now := by
    rw [textOf, hrecorded.fieldText_eq hobject (by decide)]
    rfl
  have hoccurredAt : textOf data "occurredAt" = textOf body "occurredAt" :=
    hrecorded.textOf_content hobject (by decide) (by decide)
  obtain ⟨instant, hinstant⟩ := Option.isSome_iff_exists.1 hnow
  obtain ⟨occurred, hoccurred⟩ := Option.isSome_iff_exists.1 (datetime_of_safeParse hrecorded.kept)
  rw [hoccurredAt] at hoccurred
  rw [RecordedAfter, OccurredBy, hrecordedAt, hoccurredAt, hinstant, hoccurred]
  simp only [Option.some_inj, Option.mem_some, forall_eq']
  constructor
  · rintro ⟨_, _, rfl, rfl, hle, _⟩
    exact hle
  · intro hle
    exact ⟨instant, occurred, rfl, rfl, hle, fun earlier hmem => hclock earlier hmem _ hinstant⟩

/-- When the longer trail is accepted, the trail being so. -/
theorem accepted_concat {hashText : String → String} {options : ChainVerifyOptions}
    {events : List (Json N)} {body data : Json N} {now : String}
    (hwritable : Writable hashText events now)
    (hrecorded : Recorded hashText events body now data) (hobject : isRecord body = true)
    (hsession : SameSession options events body) (hclock : ClockReached events now)
    (haccepted : accepted hashText options events) :
    accepted hashText options (events ++ [data]) ↔
      OccurredBy now body ∧ (options.strictTimestamps = true →
        EvidencePasses hashText (normalizeCurrentAuditBody body)) := by
  obtain ⟨⟨lastHash, session, hchained⟩, htimestamps⟩ := verifyChain_valid_iff.1 haccepted
  have hlast := hchained.getLastChainHash_eq
  have hname : textOf data "flowguardSessionId" = textOf body "flowguardSessionId" :=
    hrecorded.textOf_content hobject (by decide) (by decide)
  have htrail : textOf data "flowguardSessionId" = trailSession session data := by
    rw [trailSession]
    rcases hsome : truthy session with _ | name
    · rfl
    · rw [Option.getD_some, hname]
      exact (hchained.session_eq hwritable.events hsession name hsome).symm
  have hverified := hrecorded.verified hobject hwritable.room
  rw [hlast] at hverified
  have hlonger := hchained.snoc hrecorded.kept hverified htrail
  have hconcat : TimestampsPass hashText options.strictTimestamps (events ++ [data]) ↔ _ :=
    timestampsPass_concat hrecorded.kept
  rw [events_of_numberedEvents hwritable.events,
    hrecorded.recordedAfter_iff hobject hwritable.instant hclock,
    hrecorded.evidencePasses_iff hobject] at hconcat
  constructor
  · intro haccepted'
    exact (hconcat.1 (verifyChain_valid_iff.1 haccepted').2).2
  · intro hpass
    exact verifyChain_valid_iff.2 ⟨⟨_, _, hlonger⟩, hconcat.2 ⟨htimestamps, hpass⟩⟩

/-! ### Appending to an accepted file -/

/-- The text of the file after a call. -/
def fileAfter (existing : String) : Except AuditError (String × Json N) → String
  | .ok (text, _) => text
  | .error _ => existing

/-- What appending is for: one event more behind the old ones, no id twice, a
delivery repeated only returns what is there, and verification still passes. -/
structure AppendsOnce (hashText : String → String) (options : ChainVerifyOptions)
    (existing : String) (events : List (Json N)) (event body : Json N) (now : String) :
    Prop where
  appended : textOf body "id" ∉ idsOf events →
    ∃ text data, appendAuditEvent hashText existing event now = .ok (text, data) ∧
      parseAuditTrail text = .ok (events ++ [data]) ∧
      Json.SameValue (data.without positionalFields) (body.without positionalFields) ∧
      (accepted hashText options events → accepted hashText options (events ++ [data]))
  unique : ∀ events', parseAuditTrail (N := N)
    (fileAfter existing (appendAuditEvent hashText existing event now)) = .ok events' →
      (idsOf events').Nodup
  repeated : ∀ persisted ∈ events, textOf persisted "id" = textOf body "id" →
    canonicalEventContent (normalizeCurrentAuditBody persisted) =
      canonicalEventContent (normalizeCurrentAuditBody body) →
    appendAuditEvent hashText existing event now = .ok (existing, persisted)

/-- When appending does that. -/
structure AppendSafe (hashText : String → String) (options : ChainVerifyOptions)
    (existing : String) (events : List (Json N)) (body : Json N) (now : String) : Prop where
  ids : (idsOf events).Nodup
  blank : textOf body "id" ∉ idsOf events → endsBlank existing = true
  names : textOf body "id" ∉ idsOf events → namesEventFields body = true
  printable : textOf body "id" ∉ idsOf events →
    (body.without positionalFields).isPrintable = true
  timestamps : textOf body "id" ∉ idsOf events → accepted hashText options events →
    OccurredBy now body ∧ (options.strictTimestamps = true →
      EvidencePasses hashText (normalizeCurrentAuditBody body))

theorem events_of_parseAuditTrail {existing : String} {events : List (Json N)}
    (hexisting : parseAuditTrail existing = .ok events) :
    ∀ event ∈ events, safeParse event = some event := by
  intro event hmem
  obtain ⟨json, hdistinct, hparse⟩ := exists_json_of_parseLines hexisting event hmem
  exact (Schema.parse_kept auditEventSchema_each hdistinct hparse).1

theorem appendAuditEvent_fresh {hashText : String → String} {existing now : String}
    {events : List (Json N)} {event body : Json N}
    (hexisting : parseAuditTrail existing = .ok events) (hbody : safeParseBody event = some body)
    (hfresh : textOf body "id" ∉ idsOf events) :
    appendAuditEvent hashText existing event now =
      match safeParse (chainedEvent hashText events body now) with
      | none => .error invalidChainedEvent
      | some data => .ok (withRecord existing data, data) := by
  have hnone : (events.find? fun candidate => textOf candidate "id" == textOf body "id") =
      none := by
    apply List.find?_eq_none.2
    intro candidate hmem hid
    exact hfresh (List.mem_map.2 ⟨candidate, hmem, eq_of_beq hid⟩)
  simp only [appendAuditEvent, hbody, appendAuditLineCore, hexisting, bind, Except.bind, hnone]

theorem appendAuditEvent_known {hashText : String → String} {existing now : String}
    {events : List (Json N)} {event body persisted : Json N}
    (hexisting : parseAuditTrail existing = .ok events) (hbody : safeParseBody event = some body)
    (hfind : (events.find? fun candidate => textOf candidate "id" == textOf body "id") =
      some persisted) :
    appendAuditEvent hashText existing event now =
      if computeCanonicalEventDigest hashText (normalizeCurrentAuditBody persisted) ==
          computeCanonicalEventDigest hashText (normalizeCurrentAuditBody body) then
        .ok (existing, persisted)
      else .error (duplicateId (textOf body "id")) := by
  simp only [appendAuditEvent, hbody, appendAuditLineCore, hexisting, bind, Except.bind, hfind]

/-- A known id leaves the file as it was. -/
theorem fileAfter_known {hashText : String → String} {existing now : String}
    {events : List (Json N)} {event body : Json N}
    (hexisting : parseAuditTrail existing = .ok events) (hbody : safeParseBody event = some body)
    (hknown : textOf body "id" ∈ idsOf events) :
    fileAfter existing (appendAuditEvent hashText existing event now) = existing := by
  obtain ⟨persisted, hmem, hid⟩ := List.mem_map.1 hknown
  have hsome : (events.find? fun candidate =>
      textOf candidate "id" == textOf body "id").isSome = true :=
    List.find?_isSome.2 ⟨persisted, hmem, beq_iff_eq.2 hid⟩
  obtain ⟨found, hfind⟩ := Option.isSome_iff_exists.1 hsome
  rw [appendAuditEvent_known hexisting hbody hfind]
  split_ifs <;> rfl

omit [JsonNumber N] in
theorem find?_of_ids_nodup {events : List (Json N)} (hids : (idsOf events).Nodup)
    {persisted : Json N} (hmem : persisted ∈ events) {id : String}
    (hid : textOf persisted "id" = id) :
    (events.find? fun candidate => textOf candidate "id" == id) = some persisted := by
  induction events with
  | nil => exact absurd hmem List.not_mem_nil
  | cons first rest ih =>
      rw [idsOf, List.map_cons, List.nodup_cons] at hids
      rcases List.mem_cons.1 hmem with rfl | hmem
      · exact List.find?_cons_of_pos (beq_iff_eq.2 hid)
      · have hne : textOf first "id" ≠ id := by
          rintro rfl
          exact hids.1 (List.mem_map.2 ⟨persisted, hmem, hid⟩)
        rw [List.find?_cons_of_neg (by simpa using hne)]
        exact ih hids.2 hmem

theorem exists_fields_of_safeParse {raw event : Json N} (hparse : safeParse raw = some event) :
    ∃ fields, raw = .object fields := by
  cases raw with
  | object fields => exact ⟨fields, rfl⟩
  | _ => cases hparse

/-- The text the writer leaves when it takes the event, and how it reads. -/
theorem appended_of_names {hashText : String → String} {existing now : String}
    {events : List (Json N)} {event body : Json N} (hwritable : Writable hashText events now)
    (hdistinct : event.distinct = true) (hexisting : parseAuditTrail existing = .ok events)
    (hbody : safeParseBody event = some body) (hfresh : textOf body "id" ∉ idsOf events)
    (hnames : namesEventFields body = true) :
    ∃ data : Json N, Recorded hashText events body now data ∧
      appendAuditEvent hashText existing event now = .ok (withRecord existing data, data) ∧
      (endsBlank existing = true →
        parseAuditTrail (withRecord existing data) = .ok (events ++ [data.printed])) ∧
      (endsBlank existing = false →
        ∀ events' : List (Json N), parseAuditTrail (withRecord existing data) ≠ .ok events') := by
  obtain ⟨hobject, hbodyDistinct⟩ := isRecord_of_safeParseBody hdistinct hbody
  obtain ⟨⟨data, hdata⟩, hcovers⟩ := exists_safeParse_chainedEvent hwritable hdistinct hbody hnames
  have hrecorded := recorded_of_safeParse hobject hbodyDistinct hcovers hdata
  refine ⟨data, hrecorded, ?_, ?_⟩
  · rw [appendAuditEvent_fresh hexisting hbody hfresh, hdata]
  · obtain ⟨fields, rfl⟩ := exists_fields_of_safeParse hrecorded.kept
    exact ⟨fun hblank => parseAuditTrail_withRecord hexisting hblank hrecorded.distinct
        (safeParse_printed hrecorded.kept),
      fun hblank => parseAuditTrail_withRecord_unreadable hexisting hblank fields⟩

theorem Recorded.printed_eq_self_iff {hashText : String → String} {events : List (Json N)}
    {body data : Json N} {now : String} (hrecorded : Recorded hashText events body now data)
    (hobject : isRecord body = true) (hroom : events.length < maxExactNat) :
    data.printed = data ↔ (body.without positionalFields).isPrintable = true := by
  have hcontent : body.without positionalFields = .object (contentFields body) := by
    cases body with
    | object fields => rfl
    | _ => cases hobject
  have hstamped : ∀ field ∈ stampedFields hashText events body now,
      field.2.isPrintable = true := by
    have hsequence := JsonNumber.finite_ofNat (N := N) hroom
    simp only [stampedFields, List.forall_mem_cons]
    exact ⟨rfl, hsequence, rfl, rfl, rfl, rfl, fun _ hmem => absurd hmem List.not_mem_nil⟩
  rw [Json.printed_eq_self_iff, ← Json.isPrintable_sortKeys, hrecorded.same,
    Json.isPrintable_sortKeys, chainedEvent_eq hobject, hcontent, Json.isPrintable_object,
    Json.isPrintable_object, List.forall_mem_append]
  exact ⟨fun h => h.1, fun h => ⟨h, hstamped⟩⟩

theorem Recorded.sameContent {hashText : String → String} {events : List (Json N)}
    {body data : Json N} {now : String} (hrecorded : Recorded hashText events body now data)
    (hobject : isRecord body = true) :
    Json.SameValue (data.without positionalFields) (body.without positionalFields) := by
  have hsame := hrecorded.same.without hrecorded.distinct hrecorded.alike.distinct_right
    positionalFields
  have hcontent : (chainedEvent hashText events body now).without positionalFields =
      body.without positionalFields := by
    rw [chainedEvent_eq hobject, Json.without, List.filter_append]
    have hnone : (stampedFields hashText events body now).filter
        (fun field => !positionalFields.contains field.1) = [] := by
      apply List.filter_eq_nil_iff.2
      intro field hmem
      simpa using (mem_stampedFields hashText events body now field hmem).1
    cases body with
    | object fields =>
        rw [hnone, List.append_nil, contentFields, List.filter_filter]
        simp only [Bool.and_self]
        rfl
    | _ => cases hobject
  rwa [hcontent] at hsame

/-- A call on a file that can be read, with a body that the schema accepts, of
the session of the trail and not before its last record. -/
structure ValidCall (hashText : String → String) (options : ChainVerifyOptions)
    (existing : String) (events : List (Json N)) (event body : Json N) (now : String) :
    Prop where
  hex : ∀ content, isSha256Hex (hashText content) = true
  length : existing.length ≤ maxStringLength
  readable : parseAuditTrail existing = .ok events
  distinct : event.distinct = true
  valid : safeParseBody event = some body
  instant : IsInstant now
  session : SameSession options events body
  clock : ClockReached events now

namespace ValidCall

variable {hashText : String → String} {options : ChainVerifyOptions} {existing now : String}
  {events : List (Json N)} {event body : Json N}

theorem writable (hcall : ValidCall hashText options existing events event body now) :
    Writable hashText events now :=
  ⟨hcall.hex, length_lt_of_parseAuditTrail hcall.length hcall.readable, hcall.instant,
    events_of_parseAuditTrail hcall.readable⟩

theorem object (hcall : ValidCall hashText options existing events event body now) :
    isRecord body = true :=
  (isRecord_of_safeParseBody hcall.distinct hcall.valid).1

theorem ids_of_appendsOnce (hcall : ValidCall hashText options existing events event body now)
    (honce : AppendsOnce hashText options existing events event body now) :
    (idsOf events).Nodup := by
  by_cases hknown : textOf body "id" ∈ idsOf events
  · apply honce.unique
    rw [fileAfter_known hcall.readable hcall.valid hknown]
    exact hcall.readable
  · obtain ⟨text, data, happend, hparse, _⟩ := honce.appended hknown
    have hall : (idsOf (events ++ [data])).Nodup := by
      apply honce.unique
      rw [happend]
      exact hparse
    rw [idsOf, List.map_append] at hall
    exact hall.sublist (List.sublist_append_left _ _)

theorem names_of_appendsOnce (hcall : ValidCall hashText options existing events event body now)
    (honce : AppendsOnce hashText options existing events event body now)
    (hfresh : textOf body "id" ∉ idsOf events) : namesEventFields body = true := by
  obtain ⟨text, data, happend, _⟩ := honce.appended hfresh
  by_contra hnames
  rw [appendAuditEvent_fresh hcall.readable hcall.valid hfresh,
    safeParse_chainedEvent_eq_none hcall.object (Bool.not_eq_true _ ▸ hnames)] at happend
  cases happend

/-- What the new event being read back says of the file and of the body. -/
theorem fresh_of_appendsOnce (hcall : ValidCall hashText options existing events event body now)
    (honce : AppendsOnce hashText options existing events event body now)
    (hfresh : textOf body "id" ∉ idsOf events) :
    endsBlank existing = true ∧ (body.without positionalFields).isPrintable = true ∧
      (accepted hashText options events → OccurredBy now body ∧
        (options.strictTimestamps = true →
          EvidencePasses hashText (normalizeCurrentAuditBody body))) := by
  obtain ⟨text, data, happend, hparse, _, haccepted⟩ := honce.appended hfresh
  obtain ⟨data', hrecorded, happend', hblank, hunreadable⟩ :=
    appended_of_names hcall.writable hcall.distinct hcall.readable hcall.valid hfresh
      (hcall.names_of_appendsOnce honce hfresh)
  rw [happend'] at happend
  cases happend
  have hends : endsBlank existing = true := by
    by_contra hends
    exact hunreadable (Bool.not_eq_true _ ▸ hends) _ hparse
  have hprinted := hblank hends
  rw [hprinted] at hparse
  have hself : data.printed = data := by simpa using hparse
  have hroom := hcall.writable.room
  exact ⟨hends, (hrecorded.printed_eq_self_iff hcall.object hroom).1 hself, fun hold =>
    (accepted_concat hcall.writable hrecorded hcall.object hcall.session hcall.clock hold).1
      (haccepted hold)⟩

theorem appended_of_safe (hcall : ValidCall hashText options existing events event body now)
    (hsafe : AppendSafe hashText options existing events body now)
    (hfresh : textOf body "id" ∉ idsOf events) :
    ∃ data, Recorded hashText events body now data ∧
      appendAuditEvent hashText existing event now = .ok (withRecord existing data, data) ∧
      parseAuditTrail (withRecord existing data) = .ok (events ++ [data]) := by
  obtain ⟨data, hrecorded, happend, hblank, _⟩ :=
    appended_of_names hcall.writable hcall.distinct hcall.readable hcall.valid hfresh
      (hsafe.names hfresh)
  have hparse := hblank (hsafe.blank hfresh)
  rw [(hrecorded.printed_eq_self_iff hcall.object hcall.writable.room).2
    (hsafe.printable hfresh)] at hparse
  exact ⟨data, hrecorded, happend, hparse⟩

theorem ids_after (hcall : ValidCall hashText options existing events event body now)
    (hsafe : AppendSafe hashText options existing events body now) {events' : List (Json N)}
    (hparse : parseAuditTrail (N := N)
      (fileAfter existing (appendAuditEvent hashText existing event now)) = .ok events') :
    (idsOf events').Nodup := by
  by_cases hknown : textOf body "id" ∈ idsOf events
  · rw [fileAfter_known hcall.readable hcall.valid hknown, hcall.readable] at hparse
    cases hparse
    exact hsafe.ids
  · obtain ⟨data, hrecorded, happend, hafter⟩ := hcall.appended_of_safe hsafe hknown
    rw [happend, fileAfter, hafter] at hparse
    cases hparse
    have hid : textOf data "id" = textOf body "id" :=
      hrecorded.textOf_content hcall.object (by decide) (by decide)
    rw [idsOf, List.map_append, List.map_singleton, hid, List.nodup_append]
    refine ⟨hsafe.ids, List.nodup_singleton _, ?_⟩
    rintro id hmem _ hsingle rfl
    rw [List.mem_singleton.1 hsingle] at hmem
    exact hknown hmem

end ValidCall

/-- Appending to a file that can be read does what it is for exactly when the
last line is blank, the ids in it are distinct, and the body has only fields that
the event schema names, finite numbers, and times that verification lets pass. -/
theorem appends_once_iff {hashText : String → String} {options : ChainVerifyOptions}
    {existing now : String} {events : List (Json N)} {event body : Json N}
    (hcall : ValidCall hashText options existing events event body now) :
    AppendsOnce hashText options existing events event body now ↔
      AppendSafe hashText options existing events body now := by
  constructor
  · intro honce
    have hfresh := hcall.fresh_of_appendsOnce honce
    exact ⟨hcall.ids_of_appendsOnce honce, fun h => (hfresh h).1,
      hcall.names_of_appendsOnce honce, fun h => (hfresh h).2.1, fun h => (hfresh h).2.2⟩
  · intro hsafe
    refine ⟨fun hfresh => ?_, fun events' hparse => hcall.ids_after hsafe hparse,
      fun persisted hmem hid hcontent => ?_⟩
    · obtain ⟨data, hrecorded, happend, hparse⟩ := hcall.appended_of_safe hsafe hfresh
      refine ⟨_, data, happend, hparse, hrecorded.sameContent hcall.object, fun hold => ?_⟩
      exact (accepted_concat hcall.writable hrecorded hcall.object hcall.session hcall.clock
        hold).2 (hsafe.timestamps hfresh hold)
    · have hdigest : computeCanonicalEventDigest hashText (normalizeCurrentAuditBody persisted) =
          computeCanonicalEventDigest hashText (normalizeCurrentAuditBody body) :=
        congrArg hashText hcontent
      rw [appendAuditEvent_known hcall.readable hcall.valid
        (find?_of_ids_nodup hsafe.ids hmem hid), if_pos (beq_iff_eq.2 hdigest)]

/-! ### A file whose last line no newline ends -/

def instantText : String := "2026-01-01T00:00:00.000Z"

def ticketBody : Json Nat :=
  .object
    [("id", .string "ffffffff-ffff-ffff-ffff-ffffffffffff"),
      ("flowguardSessionId", .string "00000000-0000-0000-0000-000000000000"),
      ("phase", .string "TICKET"), ("event", .string "lifecycle:session_created"),
      ("occurredAt", .string instantText), ("actor", .string "machine"), ("detail", .object [])]

/-- A hash that only tells content from chain texts. -/
def kindHash (content : String) : String :=
  if content.toList.head? = some '{' then hexOf 'a' else hexOf 'b'

theorem kindHash_hex (content : String) : isSha256Hex (kindHash content) = true := by
  unfold kindHash
  split_ifs <;> decide

theorem isInstant_instantText : IsInstant instantText := by
  unfold IsInstant
  decide

def unterminated : String := recordedEvent.value.stringify

theorem length_unterminated : unterminated.length < maxStringLength := by
  rw [unterminated, Json.stringify, ← String.length_toList, String.toList_ofList]
  decide +kernel

theorem safeParse_printed_recordedEvent :
    safeParse recordedEvent.value.printed = some recordedEvent.value := by rfl

theorem parseAuditTrail_recordedEvent :
    parseAuditTrail unterminated = .ok [recordedEvent.value] :=
  parseAuditTrail_unterminated recordedEvent.distinct safeParse_printed_recordedEvent

theorem sameSession_recordedEvent :
    SameSession ⟨false, none⟩ [recordedEvent.value] ticketBody where
  events := List.forall_mem_singleton.2 rfl
  expected := fun _ hmem => by cases hmem

theorem clockReached_recordedEvent : ClockReached [recordedEvent.value] instantText := by
  intro earlier hearlier instant hinstant
  exact (Option.mem_unique hearlier hinstant).le

theorem validCall_unterminated :
    ValidCall kindHash ⟨false, none⟩ unterminated [recordedEvent.value] ticketBody ticketBody
      instantText where
  hex := kindHash_hex
  length := length_unterminated.le
  readable := parseAuditTrail_recordedEvent
  distinct := by decide
  valid := rfl
  instant := isInstant_instantText
  session := sameSession_recordedEvent
  clock := clockReached_recordedEvent

/-- The next record is written into the line, which no longer can be read. -/
theorem append_unterminated :
    ValidCall kindHash ⟨false, none⟩ unterminated [recordedEvent.value] ticketBody ticketBody
        instantText ∧
      ¬AppendsOnce kindHash ⟨false, none⟩ unterminated [recordedEvent.value] ticketBody
        ticketBody instantText := by
  refine ⟨validCall_unterminated, fun honce => ?_⟩
  have hfresh : textOf ticketBody "id" ∉ idsOf [recordedEvent.value] := by decide
  have hends := (validCall_unterminated.fresh_of_appendsOnce honce hfresh).1
  exact absurd (hends.symm.trans (endsBlank_unterminated _)) (by decide)

/-- The same file with the newline. -/
def terminated : String := withRecord "" recordedEvent.value

theorem appends_once_iff_terminated :
    AppendsOnce kindHash ⟨false, none⟩ terminated [recordedEvent.value] ticketBody ticketBody
      instantText := by
  have hlength : terminated.length ≤ maxStringLength := by
    have hline := length_unterminated
    rw [unterminated] at hline
    rw [terminated, withRecord, String.empty_append, String.length_append,
      show "\n".length = 1 from rfl]
    omega
  have hreadable : parseAuditTrail terminated = .ok [recordedEvent.value] :=
    @parseAuditTrail_withRecord _ _ "" _ rfl rfl _ _ recordedEvent.distinct
      safeParse_printed_recordedEvent
  have hcall : ValidCall kindHash ⟨false, none⟩ terminated [recordedEvent.value] ticketBody
      ticketBody instantText :=
    ⟨kindHash_hex, hlength, hreadable, by decide, rfl, isInstant_instantText,
      sameSession_recordedEvent, clockReached_recordedEvent⟩
  exact (appends_once_iff hcall).2 ⟨by decide, fun _ => endsBlank_withRecord "" _,
    fun _ => by decide, fun _ => by decide, fun _ _ =>
      ⟨fun _ hoccurred _ hinstant => (Option.mem_unique hoccurred hinstant).le,
        fun hstrict => absurd hstrict (by decide)⟩⟩

end GovernedRuntime.Audit
