/-
The direct-write channel of the audit outbox (`src/integration/audit-outbox.ts`):
which fields of the persisted state it may change, and what stays the same over
any sequence of its writes.
-/
import GovernedRuntime.Audit.Trail
import GovernedRuntime.Library.JsonStrings

namespace GovernedRuntime.Audit

open GovernedRuntime.Library

variable {N : Type} [JsonNumber N]

def directWriteMutableFields : List String :=
  ["runtimeLease", "mutationEpisodes", "reviewAssurance", "riskGate", "discoveryHealthGate",
    "error"]

def reviewObligationMutableFields : List String :=
  ["status", "blockedCode", "invocationId", "fulfilledAt", "consumedAt", "pluginHandshakeAt"]

/-- `canonicalJsonStringify(record[key])`: a missing field has no text. -/
def shownField (record : Json N) (key : String) : Option String :=
  (record.get? key).map canonicalJsonStringify

/-- The keys of both records, other than the mutable ones, under which they differ. -/
def changedFields (mutableFields : List String) (before after : Json N) : List String :=
  (keysOf before.fields ++ keysOf after.fields).eraseDups.filter fun key =>
    !mutableFields.contains key && shownField before key != shownField after key

/-- `state.reviewAssurance?.obligations ?? []` -/
def obligations (state : Json N) : List (Json N) :=
  match (state.get? "reviewAssurance").bind (·.get? "obligations") with
  | some (.array items) => items
  | _ => []

/-- An id is a string, by the schema. -/
def obligationId (obligation : Json N) : String :=
  ((obligation.get? "obligationId").bind Json.text?).getD ""

def obligationIds (state : Json N) : List String := (obligations state).map obligationId

/-- What a map of the obligations by id binds an id to: the last one. -/
def obligationOf (state : Json N) (id : String) : Option (Json N) :=
  (obligations state).reverse.find? (obligationId · == id)

def obligationOrderChanges (previous next : Json N) : List String :=
  if obligationIds previous = obligationIds next then [] else ["reviewAssurance.obligation-order"]

def obligationAttributeChanges (prior obligation : Json N) : List String :=
  changedFields reviewObligationMutableFields prior obligation

def obligationPath (id : String) : String := "reviewAssurance.obligation[" ++ id ++ "]"

def unauthorizedObligationChanges (previous next : Json N) : List String :=
  let removed := (obligationIds previous).eraseDups.filter fun id =>
    (obligationOf next id).isNone
  obligationOrderChanges previous next ++ removed.map obligationPath ++
    (obligationIds next).eraseDups.flatMap fun id =>
      match obligationOf previous id, obligationOf next id with
      | some prior, some obligation =>
          (obligationAttributeChanges prior obligation).map fun name =>
            obligationPath id ++ "." ++ name
      | _, _ => [obligationPath id]

def unauthorizedDirectWriteChanges (previous next : Json N) : List String :=
  sortTexts (changedFields directWriteMutableFields previous next ++
    unauthorizedObligationChanges previous next)

/-! ### What the check accepts -/

/-- The two records show the same under every other key. -/
def SameFrozen (mutableFields : List String) (before after : Json N) : Prop :=
  ∀ key ∉ mutableFields, shownField before key = shownField after key

/-- The same obligations in the same order, up to their lifecycle fields. -/
structure SameObligations (previous next : Json N) : Prop where
  order : obligationIds previous = obligationIds next
  frozen : List.Forall₂ (SameFrozen reviewObligationMutableFields) (obligations previous)
    (obligations next)

/-- What a direct write leaves as it is. -/
structure DirectFrame (previous next : Json N) : Prop where
  fields : SameFrozen directWriteMutableFields previous next
  obligations : SameObligations previous next

theorem shownField_eq_none {record : Json N} {key : String} (hkey : key ∉ keysOf record.fields) :
    shownField record key = none := by
  rw [shownField, Json.get?, List.lookup_eq_none_iff.2]
  · rfl
  · intro field hmem
    rw [bne_iff_ne]
    rintro rfl
    exact hkey (List.mem_map_of_mem hmem)

theorem changedFields_eq_nil {mutableFields : List String} {before after : Json N} :
    changedFields mutableFields before after = [] ↔ SameFrozen mutableFields before after := by
  rw [changedFields, List.filter_eq_nil_iff]
  constructor
  · intro hnone key hfrozen
    by_cases hmem : key ∈ keysOf before.fields ++ keysOf after.fields
    · have hkey := hnone key (List.mem_eraseDups.2 hmem)
      simpa [hfrozen] using hkey
    · rw [List.mem_append, not_or] at hmem
      rw [shownField_eq_none hmem.1, shownField_eq_none hmem.2]
  · intro hsame key _ hchanged
    rw [Bool.and_eq_true, Bool.not_eq_true', bne_iff_ne] at hchanged
    exact hchanged.2 (hsame key (by simpa using hchanged.1))

/-! ### Obligations by id -/

section Obligations

omit [JsonNumber N]

theorem mem_of_obligationOf {state obligation : Json N} {id : String}
    (hof : obligationOf state id = some obligation) :
    obligation ∈ obligations state ∧ obligationId obligation = id := by
  have hid : (obligationId obligation == id) = true :=
    @List.find?_some _ (obligationId · == id) _ _ hof
  exact ⟨List.mem_reverse.1 (List.mem_of_find?_eq_some hof), eq_of_beq hid⟩

theorem obligationOf_isSome {state : Json N} {id : String} :
    (obligationOf state id).isSome = true ↔ id ∈ obligationIds state := by
  simp [obligationOf, obligationIds]

theorem obligationOf_of_mem {state obligation : Json N} (hnodup : (obligationIds state).Nodup)
    (hmem : obligation ∈ obligations state) :
    obligationOf state (obligationId obligation) = some obligation := by
  have hid : obligationId obligation ∈ obligationIds state := List.mem_map_of_mem hmem
  obtain ⟨other, hother⟩ := Option.isSome_iff_exists.1 (obligationOf_isSome.2 hid)
  obtain ⟨hmem', hid'⟩ := mem_of_obligationOf hother
  rw [hother, List.inj_on_of_nodup_map hnodup hmem' hmem hid']

/-- Obligations at one position of lists in one order have one id. -/
theorem obligationId_getElem {previous next : Json N}
    (horder : obligationIds previous = obligationIds next) {i : Nat}
    (hi : i < (obligations previous).length) (hi' : i < (obligations next).length) :
    obligationId (obligations previous)[i] = obligationId (obligations next)[i] := by
  have hget := congrArg (·[i]?) horder
  simpa [obligationIds, hi, hi'] using hget

end Obligations

/-! ### What an accepted write leaves -/

theorem unauthorizedObligationChanges_eq_nil {previous next : Json N}
    (hnodup : (obligationIds previous).Nodup) :
    unauthorizedObligationChanges previous next = [] ↔ SameObligations previous next := by
  rw [unauthorizedObligationChanges, obligationOrderChanges]
  by_cases horder : obligationIds previous = obligationIds next
  · have hnodup' : (obligationIds next).Nodup := horder ▸ hnodup
    have hlength : (obligations previous).length = (obligations next).length := by
      simpa [obligationIds] using congrArg List.length horder
    rw [if_pos horder, List.nil_append, List.append_eq_nil_iff, List.map_eq_nil_iff,
      List.flatMap_eq_nil_iff]
    constructor
    · rintro ⟨-, hattributes⟩
      refine ⟨horder, List.forall₂_iff_get.2 ⟨hlength, fun i hi hi' => ?_⟩⟩
      have hid := obligationId_getElem horder hi hi'
      have hmem := List.getElem_mem hi
      have hmem' := List.getElem_mem hi'
      have hchanges := hattributes (obligationId (obligations next)[i])
        (List.mem_eraseDups.2 (List.mem_map_of_mem hmem'))
      rw [obligationOf_of_mem hnodup' hmem', ← hid, obligationOf_of_mem hnodup hmem] at hchanges
      exact changedFields_eq_nil.1 (List.map_eq_nil_iff.1 hchanges)
    · rintro ⟨-, hfrozen⟩
      constructor
      · apply List.filter_eq_nil_iff.2
        intro id hmem hremoved
        have hkept := obligationOf_isSome.2 (horder ▸ List.mem_eraseDups.1 hmem)
        rw [Option.isNone_iff_eq_none] at hremoved
        rw [hremoved] at hkept
        cases hkept
      · intro id hmem
        obtain ⟨obligation, hobligation, rfl⟩ := List.mem_map.1 (List.mem_eraseDups.1 hmem)
        obtain ⟨i, hi', rfl⟩ := List.getElem_of_mem hobligation
        have hi : i < (obligations previous).length := hlength ▸ hi'
        have hid := obligationId_getElem horder hi hi'
        rw [obligationOf_of_mem hnodup' hobligation, ← hid,
          obligationOf_of_mem hnodup (List.getElem_mem hi)]
        exact List.map_eq_nil_iff.2
          (changedFields_eq_nil.2 ((List.forall₂_iff_get.1 hfrozen).2 i hi hi'))
  · rw [if_neg horder]
    constructor
    · intro hnil
      cases hnil
    · exact fun hsame => absurd hsame.order horder

theorem unauthorizedDirectWriteChanges_eq_nil {previous next : Json N}
    (hnodup : (obligationIds previous).Nodup) :
    unauthorizedDirectWriteChanges previous next = [] ↔ DirectFrame previous next := by
  rw [unauthorizedDirectWriteChanges, ← List.length_eq_zero_iff, (sortTexts_perm _).length_eq,
    List.length_eq_zero_iff, List.append_eq_nil_iff, changedFields_eq_nil,
    unauthorizedObligationChanges_eq_nil hnodup]
  exact ⟨fun ⟨hfields, hobligations⟩ => ⟨hfields, hobligations⟩,
    fun ⟨hfields, hobligations⟩ => ⟨hfields, hobligations⟩⟩

/-! ### The operation -/

structure PersistenceError where
  code : String
  message : String
deriving DecidableEq, Repr

def requiresExistingState : PersistenceError :=
  ⟨"DIRECT_WRITE_REQUIRES_PREPARE",
    "Refusing a direct metadata write without existing session state. The direct " ++
      "channel only updates a persisted state; bootstrap a session through the " ++
      "hydrate/full-prepare path (prepareStateWithAuditOperations) instead."⟩

def requiresPrepare (changed : List String) : PersistenceError :=
  ⟨"DIRECT_WRITE_REQUIRES_PREPARE",
    "Refusing a direct metadata write that changes protected authority state " ++
      "(" ++ ", ".intercalate changed ++ "); the direct channel may only change " ++
      ", ".intercalate directWriteMutableFields ++ ". Use " ++
      "writeStateWithArtifactsAndAuditOperations so implementation-entry finalization " ++
      "and ProofGraph refresh run exactly once."⟩

def invalidState (report : String) : PersistenceError :=
  ⟨"SCHEMA_VALIDATION_FAILED", "Refusing to persist invalid state: " ++ report⟩

/-- What `readState` throws. -/
def unreadableState (report : String) : PersistenceError := ⟨"SCHEMA_VALIDATION_FAILED", report⟩

/-- The schema of a state (`src/state/schema.ts`): what it keeps of a value, or its
report.  It reads each field by a schema of its own, and each obligation
attribute by attribute, and has nothing left to change in what it has kept. -/
structure StateSchema (N : Type) [JsonNumber N] where
  safeParse : Json N → Except String (Json N)
  kept {value kept : Json N} : safeParse value = .ok kept → safeParse kept = .ok kept
  field {a a' b b' : Json N} {key : String} : safeParse a = .ok a' → safeParse b = .ok b' →
    shownField a key = shownField b key → shownField a' key = shownField b' key
  obligation {a a' b b' : Json N} : safeParse a = .ok a' → safeParse b = .ok b' →
    SameObligations a b → SameObligations a' b'
  unique {value kept : Json N} : safeParse value = .ok kept → (obligationIds kept).Nodup

/-- The key of the outbox. -/
def outboxKey : String := "pendingAuditOperations"

/-- `{ ...next, pendingAuditOperations: [...next.pendingAuditOperations, ...operations] }` -/
def withOperations (next : Json N) (operations : List (Json N)) : Json N :=
  next.update outboxKey fun
    | .array pending => .array (pending ++ operations)
    | outbox => outbox

/-- A write asked of the channel, with the operations it is recorded by and the
verdict of the boundary's other checks, which can only refuse. -/
structure DirectWrite (N : Type) where
  next : Json N
  operations : List (Json N)
  refusal : Option PersistenceError

/-- `writeStateWithAuditOperationsAlreadyLocked`: the state then persisted. -/
def writeStateWithAuditOperations (schema : StateSchema N) (persisted : Option (Json N))
    (write : DirectWrite N) : Except PersistenceError (Json N) :=
  match persisted with
  | none => .error requiresExistingState
  | some stored => do
      let previous ← (schema.safeParse stored).mapError unreadableState
      let changed := unauthorizedDirectWriteChanges previous write.next
      if changed ≠ [] then .error (requiresPrepare changed)
      else do
        let prepared ← (schema.safeParse write.next).mapError invalidState
        let written ← (schema.safeParse (withOperations prepared write.operations)).mapError
          invalidState
        match write.refusal with
        | some error => .error error
        | none => .ok written

/-- Everything but the outbox (`authorityState`), which the digest of a state is taken of. -/
def authorityState (state : Json N) : Json N := state.without [outboxKey]

/-! ### Runs -/

/-- What any sequence of direct writes leaves: the protected part of the state a
digest is taken of, and the frozen attributes of every obligation. -/
structure ChannelFrame (before after : Json N) : Prop where
  fields : SameFrozen directWriteMutableFields (authorityState before) (authorityState after)
  obligations : SameObligations before after

theorem SameFrozen.refl (mutableFields : List String) (record : Json N) :
    SameFrozen mutableFields record record := fun _ _ => rfl

theorem SameFrozen.trans {mutableFields : List String} {a b c : Json N}
    (hab : SameFrozen mutableFields a b) (hbc : SameFrozen mutableFields b c) :
    SameFrozen mutableFields a c := fun key hkey => (hab key hkey).trans (hbc key hkey)

theorem SameObligations.of_eq {a b : Json N} (heq : obligations a = obligations b) :
    SameObligations a b := by
  refine ⟨by rw [obligationIds, obligationIds, heq], ?_⟩
  rw [heq]
  exact List.forall₂_same.2 fun _ _ => .refl _ _

theorem SameObligations.trans {a b c : Json N} (hab : SameObligations a b)
    (hbc : SameObligations b c) : SameObligations a c := by
  obtain ⟨hlength, hfrozen⟩ := List.forall₂_iff_get.1 hab.frozen
  obtain ⟨hlength', hfrozen'⟩ := List.forall₂_iff_get.1 hbc.frozen
  refine ⟨hab.order.trans hbc.order,
    List.forall₂_iff_get.2 ⟨hlength.trans hlength', fun i hi hi'' => ?_⟩⟩
  have hi' : i < (obligations b).length := hlength ▸ hi
  exact (hfrozen i hi hi').trans (hfrozen' i hi' hi'')

theorem ChannelFrame.refl (state : Json N) : ChannelFrame state state :=
  ⟨.refl _ _, .of_eq rfl⟩

theorem ChannelFrame.trans {a b c : Json N} (hab : ChannelFrame a b) (hbc : ChannelFrame b c) :
    ChannelFrame a c :=
  ⟨hab.fields.trans hbc.fields, hab.obligations.trans hbc.obligations⟩

omit [JsonNumber N] in
theorem get?_authorityState (state : Json N) (key : String) :
    (authorityState state).get? key = if key = outboxKey then none else state.get? key := by
  cases state with
  | object fields =>
      rw [authorityState, Json.get?, Json.without, Json.fields, Json.lookup_without]
      exact if_congr List.mem_singleton rfl rfl
  | _ => exact (ite_self _).symm

omit [JsonNumber N] in
theorem get?_update_of_ne {key name : String} (hname : name ≠ key) (f : Json N → Json N)
    (value : Json N) : (value.update key f).get? name = value.get? name := by
  cases value with
  | object fields =>
      have hfields : (Json.updateFields key f fields).lookup name = fields.lookup name := by
        induction fields with
        | nil => rfl
        | cons field rest ih =>
            rw [Json.updateFields, List.map_cons, List.lookup_cons, List.lookup_cons]
            by_cases hkey : field.1 = key
            · rw [if_pos hkey, hkey, beq_false_of_ne hname]
              exact ih
            · rw [if_neg hkey]
              cases name == field.1
              · exact ih
              · rfl
      exact hfields
  | _ => rfl

/-- The fields the digest is taken of, other than mutable ones. -/
theorem sameFrozen_authorityState {before after : Json N}
    (hsame : ∀ key ∉ directWriteMutableFields, key ≠ outboxKey →
      shownField before key = shownField after key) :
    SameFrozen directWriteMutableFields (authorityState before) (authorityState after) := by
  intro key hkey
  unfold shownField
  rw [get?_authorityState, get?_authorityState]
  split_ifs with houtbox
  · rfl
  · exact hsame key hkey houtbox

section Writes

variable {schema : StateSchema N} {state written : Json N} {write : DirectWrite N}

theorem mapError_eq_ok_iff {ε ε' α : Type} {f : ε → ε'} {x : Except ε α} {a : α} :
    x.mapError f = .ok a ↔ x = .ok a := by
  rcases x with error | b
  · exact ⟨fun h => (nomatch h), fun h => (nomatch h)⟩
  · exact ⟨fun h => congrArg Except.ok (Except.ok.inj h), fun h =>
      congrArg Except.ok (Except.ok.inj h)⟩

/-- An accepted write passed the check and, before and after the operations were
added, the schema. -/
theorem writeStateWithAuditOperations_cases
    (hwrite : writeStateWithAuditOperations schema (some state) write = .ok written) :
    ∃ previous prepared, schema.safeParse state = .ok previous ∧
      unauthorizedDirectWriteChanges previous write.next = [] ∧
      schema.safeParse write.next = .ok prepared ∧
      schema.safeParse (withOperations prepared write.operations) = .ok written := by
  simp only [writeStateWithAuditOperations, bind_eq_ok_iff, mapError_eq_ok_iff] at hwrite
  obtain ⟨previous, hprevious, hwrite⟩ := hwrite
  by_cases hchanged : unauthorizedDirectWriteChanges previous write.next = []
  · rw [if_neg (not_not.2 hchanged)] at hwrite
    simp only [bind_eq_ok_iff, mapError_eq_ok_iff] at hwrite
    obtain ⟨prepared, hprepared, result, hresult, hverdict⟩ := hwrite
    cases hrefusal : write.refusal with
    | none =>
        rw [hrefusal] at hverdict
        cases hverdict
        exact ⟨previous, prepared, hprevious, hchanged, hprepared, hresult⟩
    | some error =>
        rw [hrefusal] at hverdict
        cases hverdict
  · rw [if_pos hchanged] at hwrite
    cases hwrite

/-- One accepted write keeps the frame, and leaves a state the schema has kept. -/
theorem writeStateWithAuditOperations_frame (hstate : schema.safeParse state = .ok state)
    (hwrite : writeStateWithAuditOperations schema (some state) write = .ok written) :
    ChannelFrame state written ∧ schema.safeParse written = .ok written := by
  obtain ⟨previous, prepared, hprevious, haccepted, hprepared, hwritten⟩ :=
    writeStateWithAuditOperations_cases hwrite
  cases Except.ok.inj (hstate.symm.trans hprevious)
  have hframe := (unauthorizedDirectWriteChanges_eq_nil (schema.unique hstate)).1 haccepted
  have hkept := schema.kept hprepared
  refine ⟨⟨sameFrozen_authorityState fun key hkey houtbox => ?_, ?_⟩, schema.kept hwritten⟩
  · calc shownField state key
        = shownField prepared key := schema.field hstate hprepared (hframe.fields key hkey)
      _ = shownField written key := schema.field hkept hwritten (by
          rw [shownField, shownField, withOperations, get?_update_of_ne houtbox])
  · have hobligations : SameObligations prepared (withOperations prepared write.operations) :=
      .of_eq (by rw [obligations, obligations, withOperations, get?_update_of_ne (by decide)])
    exact (schema.obligation hstate hprepared hframe.obligations).trans
      (schema.obligation hkept hwritten hobligations)

/-- The states one accepted write after another leaves. -/
def directWriteStep (schema : StateSchema N) (state : Json N) (write : DirectWrite N) :
    Option (Json N) :=
  (writeStateWithAuditOperations schema (some state) write).toOption

theorem directWriteStep_frame {start : Json N}
    (hinv : ChannelFrame start state ∧ schema.safeParse state = .ok state)
    (hstep : directWriteStep schema state write = some written) :
    ChannelFrame start written ∧ schema.safeParse written = .ok written := by
  have hwrite : writeStateWithAuditOperations schema (some state) write = .ok written := by
    unfold directWriteStep at hstep
    cases hresult : writeStateWithAuditOperations schema (some state) write with
    | error error =>
        rw [hresult] at hstep
        cases hstep
    | ok result =>
        rw [hresult] at hstep
        cases hstep
        rfl
  obtain ⟨hframe, hkept⟩ := writeStateWithAuditOperations_frame hinv.2 hwrite
  exact ⟨hinv.1.trans hframe, hkept⟩

end Writes

/-- Fields with one canonical text have one value, where the text shows all of it. -/
theorem sameValue_of_shownField {before after value value' : Json N} {key : String}
    (hsame : shownField before key = shownField after key)
    (hvalue : before.get? key = some value) (hvalue' : after.get? key = some value')
    (hdistinct : value.distinct = true) (hdistinct' : value'.distinct = true)
    (hplain : isPlain value = true) (hplain' : isPlain value' = true) :
    value.SameValue value' := by
  rw [shownField, shownField, hvalue, hvalue', Option.map_some, Option.map_some,
    Option.some_inj, canonicalJsonStringify_eq_iff hdistinct hdistinct',
    canonicalForm_of_isPlain hplain, canonicalForm_of_isPlain hplain'] at hsame
  exact hsame

/-- A pair is accepted exactly if nothing protected differs, and no sequence of
accepted writes changes what is protected. -/
theorem direct_writes_keep_frame (schema : StateSchema N) {start state : Json N}
    (hstart : schema.safeParse start = .ok start)
    (hreaches : Reaches (directWriteStep schema) (fun _ _ => True) start state) :
    (∀ next, unauthorizedDirectWriteChanges state next = [] ↔ DirectFrame state next) ∧
      (∀ next, DirectFrame state next → ∀ key ∉ directWriteMutableFields, ∀ value value',
        state.get? key = some value → next.get? key = some value' →
        value.distinct = true → value'.distinct = true →
        isPlain value = true → isPlain value' = true → value.SameValue value') ∧
      ChannelFrame start state := by
  have hinv : ChannelFrame start state ∧ schema.safeParse state = .ok state :=
    @Reaches.invariant _ _ _ _
      (fun state => ChannelFrame start state ∧ schema.safeParse state = .ok state)
      (fun hinv _ hstep => directWriteStep_frame hinv hstep) _ _ hreaches ⟨.refl start, hstart⟩
  refine ⟨fun next => unauthorizedDirectWriteChanges_eq_nil (schema.unique hinv.2), ?_, hinv.1⟩
  intro next hframe key hkey value value' hvalue hvalue'
  exact sameValue_of_shownField (hframe.fields key hkey) hvalue hvalue'

/-- The schema that asks for nothing but distinct ids. -/
def distinctIds : StateSchema N where
  safeParse value := if (obligationIds value).Nodup then .ok value else .error "duplicate id"
  kept := by
    intro value kept hkept
    split_ifs at hkept with hnodup
    cases hkept
    exact if_pos hnodup
  field := by
    intro a a' b b' key ha hb hsame
    split_ifs at ha hb
    cases ha
    cases hb
    exact hsame
  obligation := by
    intro a a' b b' ha hb hsame
    split_ifs at ha hb
    cases ha
    cases hb
    exact hsame
  unique := by
    intro value kept hkept
    split_ifs at hkept with hnodup
    cases hkept
    exact hnodup

/-- The policy a session in team mode is governed by. -/
def teamPolicySnapshot : Json Nat :=
  .object
    [("mode", .string "team"), ("requestedMode", .string "team"),
      ("hash", .string "bc71b41c4066f3d2a4099822ac4a0aea1229e82d2e323b1bab476a92a8b6c23c"),
      ("hashVersion", .string "policy-digest.v4"),
      ("resolvedAt", .string "2026-01-01T00:00:00.000Z"),
      ("effectiveGateBehavior", .string "human_gated"), ("requireHumanGates", .bool true),
      ("reviewBudget", .object
        [("plan", .number 3), ("architecture", .number 3), ("implementation", .number 3)]),
      ("maxIncoherentReviewerCaptureRetries", .number 1), ("maxReviewerAttempts", .number 1),
      ("allowSelfApproval", .bool true), ("identityProviderMode", .string "optional"),
      ("minimumActorAssuranceForApproval", .string "best_effort"),
      ("challengePolicy", .object
        [("version", .string "challenge-policy.v1"),
          ("counts", .object
            [("TRIVIAL", .number 0), ("STANDARD", .number 1), ("HIGH-RISK", .number 2)])]),
      ("enforceRiskClassification", .bool false), ("riskTriggerPaths", .array []),
      ("allowReducedCeremony", .bool false),
      ("discoveryHealth", .object [("enforcement", .string "off"),
        ("onDegraded", .string "allow"), ("onDrift", .string "allow")]),
      ("validationEvidence", .object
        [("enforcement", .string "off"), ("allowNoCommands", .bool false)]),
      ("audit", .object
        [("emitTransitions", .bool true), ("emitToolCalls", .bool true),
          ("enableChainHash", .bool true),
          ("timestampAssurance", .object
            [("enabled", .bool false), ("mode", .string "local_only"), ("strict", .bool false),
              ("criticalEvents", .array [.string "decision"]),
              ("ntpDriftThresholdMs", .number 30000), ("tsaTimeoutMs", .number 10000)])]),
      ("actorClassification", .object [("flowguard_decision", .string "human")])]

/-- The fields of a session in planning that neither the channel nor its outbox touches. -/
def plannedFields : List (String × Json Nat) :=
  ["implementationRiskAssessment", "implementationRework", "ticket", "architecture", "plan",
      "selfReview", "implementation", "reducedCeremony", "implReview", "reviewDecision",
      "reviewReportPath", "activeProfile", "transition", "error", "exportCompletionEvidence",
      "pendingSystemWork", "regulatedArchiveStatus"].map (·, .null) ++
    ["validation", "validationAttempts", "mutationAttempts", "mutationEpisodes",
      "mutationEpisodeResolutions", "challengeResolutions", "implValidation",
      "implReviewFindings", "peerReviewFindings", "peerReviewEvidence",
      "activeChecks"].map (·, .array []) ++
    [("id", .string "00000000-0000-4000-8000-000000000001"),
      ("flowguardSessionId", .string "00000000-0000-4000-8000-000000000001"),
      ("schemaVersion", .string "v11"), ("assuranceEpoch", .string "assurance-epoch.v3"),
      ("stateDigestFormat", .string "state-digest.v2"),
      ("auditChainFormat", .string "audit-chain.v3"), ("phase", .string "PLAN"),
      ("binding", .object
        [("hostSessionId", .string "ses_1"), ("worktree", .string "/tmp/test-repo"),
          ("fingerprint", .string "a1b2c3d4e5f6a1b2c3d4e5f6"),
          ("resolvedAt", .string "2026-01-01T00:00:00.000Z")]),
      ("reviewCycles", .object
        [("plan", .number 1), ("architecture", .number 1), ("implementation", .number 1)]),
      ("proofGraph", .object [("version", .string "proofgraph.v2"), ("claims", .array []),
        ("evaluatedAt", .string "2026-01-01T00:00:00.000Z")]),
      ("nextAdrNumber", .number 1), ("policySnapshot", teamPolicySnapshot),
      ("initiatedBy", .string "initiator-1"),
      ("implementationBaseline", .object [("dirtyFiles", .null),
        ("capturedAt", .string "2026-01-01T00:00:00.000Z"), ("controlPlaneMarker", .null)]),
      ("createdAt", .string "2026-01-01T00:00:00.000Z")]

/-- What a plan review is asked for, up to where it stands. -/
def plannedObligation : List (String × Json Nat) :=
  ["pluginHandshakeAt", "invocationId", "fulfilledAt", "consumedAt"].map (·, .null) ++
    [("obligationId", .string "00000000-0000-4000-8000-0000000000aa"),
      ("obligationType", .string "plan"), ("iteration", .number 1), ("reviewCycle", .number 1),
      ("planVersion", .number 1), ("criteriaVersion", .string "p42-v7"),
      ("mandateDigest", .string "mandate"), ("createdAt", .string "2026-01-01T00:00:00.000Z"),
      ("requiredChallengeCount", .number 1),
      ("requiredChallengeKind", .string "design_challenge"),
      ("challengePolicyVersion", .string "challenge-policy.v1"),
      ("subjectDigest", .string "d"),
      ("reviewMaterial", .object [("content", .string "## Plan"),
        ("materialDigest", .string "m"), ("subjectDigest", .string "d")]),
      ("reviewSubjectScope", .object
        [("kind", .string "artifact"),
          ("artifact", .object
            [("kind", .string "plan"), ("digest", .string "d"),
              ("sectionPaths", .array [.array [.object [("headingDepth", .number 2),
                ("siblingIndex", .number 1), ("headingText", .string "Plan")]]])])]),
      ("repositoryEvidenceFreeze", .object
        [("kind", .string "unavailable"), ("reason", .string "head_unavailable")]),
      ("maxReviewerAttempts", .number 1)]

def heldLease : Json Nat :=
  .object
    [("holderRuntimeInstanceId", .string "00000000-0000-4000-8000-0000000000bb"),
      ("generation", .number 1), ("holderPid", .number 7),
      ("acquiredAt", .string "2026-01-01T00:00:00.000Z"),
      ("lastHeartbeatAt", .string "2026-01-01T00:00:00.000Z")]

/-- A session in planning with one obligation: pending without a lease, blocked under one. -/
def leasedState (held : Bool) (pending : List (Json Nat)) : Json Nat :=
  .object (plannedFields ++
    [("runtimeLease", if held then heldLease else .null),
      ("reviewAssurance", .object
        [("assuranceSchemaVersion", .string "review-assurance.v7"),
          ("obligations", .array [.object (plannedObligation ++
            [("status", .string (if held then "blocked" else "pending")),
              ("blockedCode",
                if held then .string "REVIEW_ATTEMPT_UNAVAILABLE" else .null)])]),
          ("invocations", .array []), ("attempts", .array []), ("dispatches", .array [])]),
      ("pendingAuditOperations", .array pending)])

/-- The outbox entry of the write that took the lease. -/
def leaseWritten : Json Nat :=
  .object (["preStateDigest", "mutationDigest", "postStateDigest", "auditEventDigest"].map
      (·, .string (String.ofList (List.replicate 64 'a'))) ++
    [("operationId", .string "00000000-0000-4000-8000-0000000000cc"),
      ("status", .string "state_committed"), ("kind", .string "state_write"),
      ("stateWrite", .object
        [("phase", .string "PLAN"), ("at", .string "2026-01-01T00:00:00.000Z")])])

theorem leasedState_unique (held : Bool) (pending : List (Json Nat)) :
    (obligationIds (leasedState held pending)).Nodup := List.nodup_singleton _

theorem distinctIds_leasedState (held : Bool) (pending : List (Json Nat)) :
    distinctIds.safeParse (leasedState held pending) = .ok (leasedState held pending) := by
  simp only [distinctIds, if_pos (leasedState_unique held pending)]

theorem leasedState_frame (held held' : Bool) :
    DirectFrame (leasedState held []) (leasedState held' []) := by
  have hfields : ∀ key ∉ directWriteMutableFields,
      shownField (leasedState held []) key = shownField (leasedState held' []) key := by
    intro key hkey
    have hlease : key ≠ "runtimeLease" := by
      rintro rfl
      exact hkey (by decide)
    have hreview : key ≠ "reviewAssurance" := by
      rintro rfl
      exact hkey (by decide)
    simp only [shownField, Json.get?, Json.fields, leasedState, List.lookup_append,
      List.lookup_cons, beq_false_of_ne hlease, beq_false_of_ne hreview]
  refine ⟨hfields, rfl, .cons ?_ .nil⟩
  intro key hkey
  have hstatus : key ≠ "status" := by
    rintro rfl
    exact hkey (by decide)
  have hblocked : key ≠ "blockedCode" := by
    rintro rfl
    exact hkey (by decide)
  simp only [shownField, Json.get?, Json.fields, List.lookup_append, List.lookup_cons,
    beq_false_of_ne hstatus, beq_false_of_ne hblocked, List.lookup_nil]

theorem leasedState_reaches :
    Reaches (directWriteStep distinctIds) (fun _ _ => True) (leasedState false [])
      (leasedState true [leaseWritten]) := by
  have haccepted := (unauthorizedDirectWriteChanges_eq_nil (leasedState_unique _ _)).2
    (leasedState_frame false true)
  refine @Reaches.tail _ _ _ _ _ _ _ ⟨leasedState true [], [leaseWritten], none⟩
    (.refl _) trivial ?_
  have hwrite : writeStateWithAuditOperations distinctIds (some (leasedState false []))
      ⟨leasedState true [], [leaseWritten], none⟩ = .ok (leasedState true [leaseWritten]) := by
    simp only [writeStateWithAuditOperations, bind_eq_ok_iff, mapError_eq_ok_iff]
    refine ⟨_, distinctIds_leasedState _ _, ?_⟩
    rw [haccepted, if_neg (not_not.2 rfl)]
    simp only [bind_eq_ok_iff, mapError_eq_ok_iff]
    exact ⟨_, distinctIds_leasedState _ _, _, distinctIds_leasedState true [leaseWritten], rfl⟩
  rw [directWriteStep, hwrite]
  rfl

theorem direct_writes_keep_frame_leased :
    (∀ next, unauthorizedDirectWriteChanges (leasedState true [leaseWritten]) next = [] ↔
      DirectFrame (leasedState true [leaseWritten]) next) ∧
      (∀ next, DirectFrame (leasedState true [leaseWritten]) next →
        ∀ key ∉ directWriteMutableFields, ∀ value value',
          (leasedState true [leaseWritten]).get? key = some value →
          next.get? key = some value' → value.distinct = true → value'.distinct = true →
          isPlain value = true → isPlain value' = true → value.SameValue value') ∧
      ChannelFrame (leasedState false []) (leasedState true [leaseWritten]) :=
  direct_writes_keep_frame distinctIds (distinctIds_leasedState _ _) leasedState_reaches

/-- What the digest of a state is taken of changes with the mutable fields. -/
theorem direct_write_changes_digest_basis :
    Reaches (directWriteStep distinctIds) (fun _ _ => True) (leasedState false [])
        (leasedState true [leaseWritten]) ∧
      canonicalJsonStringify (authorityState (leasedState false [])) ≠
        canonicalJsonStringify (authorityState (leasedState true [leaseWritten])) := by
  refine ⟨leasedState_reaches, fun heq => ?_⟩
  rw [canonicalJsonStringify_eq_iff (by decide +kernel) (by decide +kernel)] at heq
  have hlease : ((authorityState (leasedState false [])).get? "runtimeLease").map canonicalForm =
      ((authorityState (leasedState true [leaseWritten])).get? "runtimeLease").map
        canonicalForm :=
    (canonicalForm_object_eq_iff_lookup (by decide +kernel) (by decide +kernel)).1 heq _
      (by decide)
  have hlookup : ∀ held pending, (authorityState (leasedState held pending)).get? "runtimeLease" =
      some (if held then heldLease else .null) := fun _ _ =>
    (get?_authorityState _ _).trans (if_neg (by decide))
  rw [hlookup, hlookup] at hlease
  simp [heldLease, canonicalForm_object, canonicalForm_null] at hlease

end GovernedRuntime.Audit
