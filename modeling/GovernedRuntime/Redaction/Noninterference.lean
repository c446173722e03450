/-
What redaction leaves of a payload: masked strings do not show, and the shape of
a payload does.
-/
import GovernedRuntime.Redaction.ExportRedaction

namespace GovernedRuntime.Redaction

open GovernedRuntime.Library GovernedRuntime.Audit

variable {N : Type} (env : Environment)

/-! ### What the walk shows -/

/-- The keys whose strings are sensitive, path-bearing or not on the allow-list;
a string of an array has no key. -/
def KeyTables.hidden (tables : KeyTables) : Option String → Bool
  | none => true
  | some key =>
      isPathBearingKey key || tables.sensitiveKeys.contains key || !tables.allowList.contains key

theorem redactStringField_of_hidden {tables : KeyTables} {key : Option String}
    (mode : RedactionMode) (hkey : tables.hidden key = true) (text : String) :
    redactStringField env mode tables key text = stableMask env text mode := by
  cases key with
  | none => rfl
  | some key =>
      rw [redactStringField]
      split_ifs with hpath hsensitive hallowed
      · rfl
      · rfl
      · rw [KeyTables.hidden, Bool.eq_false_of_not_eq_true hpath,
          Bool.eq_false_of_not_eq_true hsensitive, hallowed] at hkey
        cases hkey
      · rfl

section Walk

variable (mode : RedactionMode) (tables : KeyTables)

/-- The answer where the nesting is within the bound. -/
def within {α : Type} (fits : Prop) [Decidable fits] (answer : α) :
    Except ExportRedactionError α :=
  if fits then .ok answer else .error maxDepthExceeded

theorem within_congr {α : Type} {fits fits' : Prop} [Decidable fits] [Decidable fits']
    (hfits : fits ↔ fits') (answer : α) : within fits answer = within fits' answer := by
  unfold within
  exact if_congr hfits rfl rfl

theorem within_map {α β : Type} (fits : Prop) [Decidable fits] (answer : α) (f : α → β) :
    (do let x ← within fits answer
        return f x) = within fits (f answer) := by
  unfold within
  split_ifs <;> rfl

theorem within_bind {α β γ : Type} (fits fits' : Prop) [Decidable fits] [Decidable fits']
    (a : α) (b : β) (f : α → β → γ) :
    (do let x ← within fits a
        let y ← within fits' b
        return f x y) = within (fits ∧ fits') (f a b) := by
  unfold within
  by_cases hfits : fits
  · by_cases hfits' : fits'
    · rw [if_pos hfits, if_pos hfits', if_pos ⟨hfits, hfits'⟩]
      rfl
    · rw [if_pos hfits, if_neg hfits', if_neg fun hboth : fits ∧ fits' => hfits' hboth.2]
      rfl
  · rw [if_neg hfits, if_neg fun hboth : fits ∧ fits' => hfits hboth.1]
    rfl

/-- The depth is checked before anything below it. -/
theorem within_succ {α : Type} (depth height : Nat) (answer : α) :
    (if maxRedactDepth ≤ depth then .error maxDepthExceeded
      else within (depth + 1 + height ≤ maxRedactDepth) answer) =
      within (depth + (height + 1) ≤ maxRedactDepth) answer := by
  split_ifs with hdepth
  · exact (if_neg (by omega)).symm
  · exact within_congr (by omega) answer

theorem within_leaf {α : Type} (depth : Nat) (answer : α) :
    (if maxRedactDepth ≤ depth then .error maxDepthExceeded else .ok answer) =
      within (depth + 1 ≤ maxRedactDepth) answer := by
  split_ifs with hdepth
  · exact (if_neg (by omega)).symm
  · exact (if_pos (by omega)).symm

theorem ownFields_redacted (f : Option String → String → String)
    (fields : List (String × Json N)) :
    ownFields (fields.map fun field =>
      (field.1, (field.2.dropKey prototypeKey).mapStrings f (some field.1))) =
      Json.mapFields f (Json.dropKeyFields prototypeKey fields) := by
  induction fields with
  | nil => rfl
  | cons field rest ih =>
      obtain ⟨key, value⟩ := field
      rw [List.map_cons, Json.dropKeyFields, ownFields, List.filter_cons]
      by_cases hkey : key = prototypeKey
      · rw [if_pos hkey, if_neg (by simpa using hkey)]
        exact ih
      · rw [if_neg hkey, if_pos (by simpa using hkey), Json.mapFields]
        exact congrArg (_ :: ·) ih

mutual

/-- The walk rewrites the strings of a value that is nested within the bound. -/
theorem walk_eq (hmode : mode ≠ .none) : (value : Json N) → (depth : Nat) →
    (key : Option String) → walk env mode tables value depth key =
      within (depth + value.height ≤ maxRedactDepth)
        ((value.dropKey prototypeKey).mapStrings (redactStringField env mode tables) key)
  | .null, depth, key | .bool _, depth, key | .number _, depth, key | .string _, depth, key => by
      unfold walk
      rw [if_neg hmode]
      exact within_leaf depth _
  | .array items, depth, key => by
      rw [walk, if_neg hmode, Json.height, ← within_succ]
      split_ifs with hdepth
      · rfl
      · exact walkItems_eq hmode items (depth + 1) (by omega) ▸ within_map _ _ Json.array
  | .object fields, depth, key => by
      rw [walk, if_neg hmode, Json.height, ← within_succ]
      split_ifs with hdepth
      · rfl
      · rw [Json.dropKey, Json.mapStrings, ← ownFields_redacted]
        exact walkFields_eq hmode fields (depth + 1) (by omega) ▸
          within_map _ _ fun walked => Json.object (ownFields walked)

theorem walkItems_eq (hmode : mode ≠ .none) : (items : List (Json N)) → (depth : Nat) →
    depth ≤ maxRedactDepth → walkItems env mode tables items depth =
      within (depth + Json.heightItems items ≤ maxRedactDepth)
        (Json.mapItems (redactStringField env mode tables)
          (Json.dropKeyItems prototypeKey items))
  | [], depth, hdepth => (if_pos hdepth).symm
  | item :: rest, depth, hdepth => by
      rw [walkItems, walk_eq hmode item depth none, walkItems_eq hmode rest depth hdepth,
        within_bind]
      exact within_congr (by rw [Json.heightItems]; omega) _

theorem walkFields_eq (hmode : mode ≠ .none) : (fields : List (String × Json N)) →
    (depth : Nat) → depth ≤ maxRedactDepth → walkFields env mode tables fields depth =
      within (depth + Json.heightFields fields ≤ maxRedactDepth)
        (fields.map fun field => (field.1,
          (field.2.dropKey prototypeKey).mapStrings (redactStringField env mode tables)
            (some field.1)))
  | [], depth, hdepth => (if_pos hdepth).symm
  | (key, value) :: rest, depth, hdepth => by
      rw [walkFields, walk_eq hmode value depth (some key), walkFields_eq hmode rest depth hdepth,
        within_bind]
      exact within_congr (by rw [Json.heightFields]; omega) _

end

variable {mode tables}

theorem redactUnknownStrings_eq (hmode : mode ≠ .none) (value : Json N) :
    redactUnknownStrings env mode tables value =
      within (value.height ≤ maxRedactDepth)
        ((value.dropKey prototypeKey).mapStrings (redactStringField env mode tables) none) := by
  rw [redactUnknownStrings, walk_eq env mode tables hmode]
  exact within_congr (by rw [Nat.zero_add]) _

/-- Two values that differ in hidden strings only are redacted alike. -/
theorem redactUnknownStrings_congr {a b : Json N}
    (hsame : Json.SameBut tables.hidden none a b) :
    redactUnknownStrings env .basic tables a = redactUnknownStrings env .basic tables b := by
  have hmask : ∀ key text text', tables.hidden key = true →
      redactStringField env .basic tables key text =
        redactStringField env .basic tables key text' := by
    intro key text text' hkey
    rw [redactStringField_of_hidden env .basic hkey, redactStringField_of_hidden env .basic hkey]
    rfl
  rw [redactUnknownStrings_eq env (by decide), redactUnknownStrings_eq env (by decide),
    hsame.dropKey.mapStrings_eq hmask]
  exact within_congr (by rw [hsame.height_eq]) _

/-- What is redacted within the bound keeps its shape. -/
theorem redactUnknownStrings_shape (hmode : mode ≠ .none) {value : Json N}
    (havoids : value.avoids prototypeKey = true) :
    (maxRedactDepth < value.height ∧
      redactUnknownStrings env mode tables value = .error maxDepthExceeded) ∨
      ∃ out, value.height ≤ maxRedactDepth ∧ redactUnknownStrings env mode tables value = .ok out ∧
        Json.SameShape value out := by
  rw [redactUnknownStrings_eq env hmode, Json.dropKey_of_avoids value havoids]
  by_cases hfits : value.height ≤ maxRedactDepth
  · exact .inr ⟨_, hfits, if_pos hfits, Json.sameBut_mapStrings value⟩
  · exact .inl ⟨by omega, if_neg hfits⟩

end Walk

/-! ### Identities -/

section Identities

variable {hidden : Option String → Bool} {key : Option String} {source source' : Json N}

theorem isObject_congr (hsame : Json.SameBut hidden key source source') :
    isObject source = isObject source' := by
  cases hsame <;> rfl

theorem maskTextFromSource_congr (hsame : Json.SameBut hidden key source source')
    (result : Json N) (name : String) :
    maskTextFromSource env .basic source result name =
      maskTextFromSource env .basic source' result name := by
  unfold maskTextFromSource
  rcases hsame.get? name with ⟨hnone, hnone'⟩ | ⟨value, value', hvalue, hvalue', hrel⟩
  · simp only [hnone, hnone']
  · simp only [hvalue, hvalue']
    cases hrel <;> rfl

theorem maskIdentityFromSource_congr (hsame : Json.SameBut hidden key source source')
    (result : Json N) (name : String) :
    maskIdentityFromSource env .basic source result name =
      maskIdentityFromSource env .basic source' result name := by
  unfold maskIdentityFromSource
  rcases hsame.get? name with ⟨hnone, hnone'⟩ | ⟨value, value', hvalue, hvalue', hrel⟩
  · simp only [hnone, hnone']
  · have hmask : maskTextFromSource env .basic value = maskTextFromSource env .basic value' :=
      funext fun target => funext fun name => maskTextFromSource_congr env hrel target name
    simp only [hvalue, hvalue']
    cases result.get? name with
    | none => rfl
    | some resultObj => simp only [isObject_congr hrel, hmask]

/-- Masking a string where the source has one keeps the shape. -/
theorem maskTextFromSource_shape (mode : RedactionMode) {result : Json N}
    (hdistinct : source.distinct = true)
    (hsame : Json.SameBut (fun _ => true) key source result) (name : String) :
    Json.SameBut (fun _ => true) key source (maskTextFromSource env mode source result name) := by
  unfold maskTextFromSource
  split
  · next text hget => exact hsame.assign hdistinct hget (.hidden text _ rfl)
  · exact hsame

theorem foldl_shape {mask : Json N → String → Json N}
    (hmask : ∀ result name, Json.SameBut (fun _ => true) key source result →
      Json.SameBut (fun _ => true) key source (mask result name))
    {result : Json N} (hsame : Json.SameBut (fun _ => true) key source result)
    (names : List String) :
    Json.SameBut (fun _ => true) key source (names.foldl mask result) := by
  induction names generalizing result with
  | nil => exact hsame
  | cons name names ih => exact ih (hmask result name hsame)

theorem maskIdentityFromSource_shape (mode : RedactionMode) {result : Json N}
    (hdistinct : source.distinct = true)
    (hsame : Json.SameBut (fun _ => true) key source result) (name : String) :
    Json.SameBut (fun _ => true) key source
      (maskIdentityFromSource env mode source result name) := by
  unfold maskIdentityFromSource
  rcases hsame.get? name with ⟨hnone, _⟩ | ⟨value, value', hvalue, hvalue', hrel⟩
  · simp only [hnone]
    exact hsame
  · simp only [hvalue, hvalue']
    split_ifs
    · apply hsame.assign hdistinct hvalue
      exact foldl_shape (fun _ name h => maskTextFromSource_shape env mode
        (Json.distinct_of_get? hdistinct hvalue) h name) hrel _
    · exact hsame

end Identities

/-! ### Error messages -/

theorem onText_congr {hidden : Option String → Bool} {key : Option String} {a b : Json N}
    (f : String → String) (hsame : Json.SameBut hidden key a b) :
    Json.SameBut hidden key (onText f a) (onText f b) := by
  cases hsame with
  | string text => exact .string (f text)
  | hidden text text' hkey => exact .hidden (f text) (f text') hkey
  | null => exact .null
  | bool value => exact .bool value
  | number value => exact .number value
  | array hitems => exact .array hitems
  | object hfields => exact .object hfields

theorem sameBut_onText (key : Option String) (f : String → String) (value : Json N) :
    Json.SameBut (fun _ => true) key value (onText f value) := by
  cases value with
  | string text => exact .hidden text (f text) rfl
  | _ => exact .refl _

/-! ### The redactors of whole payloads -/

/-- The redactors that mask a payload as a whole, with their tables. -/
inductive Redactor where
  | reviewReport
  | decisionReceipts
  | sessionState
  | diagnosticPayload
  | auditDetail

def Redactor.tables : Redactor → KeyTables
  | .reviewReport => Redaction.reviewReport
  | .decisionReceipts => decisionReceipt
  | .sessionState => Redaction.sessionState
  | .diagnosticPayload => diagnostic
  | .auditDetail => Redaction.auditDetail

def Redactor.redact (redactor : Redactor) (payload : Json N) (mode : RedactionMode) :
    Except ExportRedactionError (Json N) :=
  match redactor with
  | .reviewReport => redactReviewReport env payload mode
  | .decisionReceipts => redactDecisionReceipts env payload mode
  | .sessionState => redactSessionState env payload mode
  | .diagnosticPayload => redactDiagnosticPayload env payload mode
  | .auditDetail => redactAuditDetail env mode payload

theorem Redactor.redact_congr (redactor : Redactor) {a b : Json N}
    (hsame : Json.SameBut redactor.tables.hidden none a b) :
    redactor.redact env a .basic = redactor.redact env b .basic := by
  cases redactor with
  | reviewReport => exact redactUnknownStrings_congr env hsame
  | decisionReceipts => exact redactUnknownStrings_congr env hsame
  | diagnosticPayload => exact redactUnknownStrings_congr env hsame
  | auditDetail =>
      exact redactUnknownStrings_congr env
        (hsame.update fun _ _ hrel => onText_congr env.sanitizeDiagnosticString hrel)
  | sessionState =>
      have hmask : maskIdentityFromSource env .basic a = maskIdentityFromSource env .basic b :=
        funext fun result => funext fun name =>
          maskIdentityFromSource_congr env hsame result name
      have hwalk : redactUnknownStrings env .basic Redaction.sessionState a =
          redactUnknownStrings env .basic Redaction.sessionState b :=
        redactUnknownStrings_congr env hsame
      simp only [redact, redactSessionState, hwalk, hmask]
      rfl

/-- What is redacted has the shape of the payload, and only a payload nested
beyond the bound is refused. -/
def KeepsShape (payload : Json N) (redacted : Except ExportRedactionError (Json N)) : Prop :=
  (maxRedactDepth < payload.height ∧ redacted = .error maxDepthExceeded) ∨
    ∃ out, payload.height ≤ maxRedactDepth ∧ redacted = .ok out ∧ Json.SameShape payload out

theorem redactAuditDetail_shape {mode : RedactionMode} (hmode : mode ≠ .none) {detail : Json N}
    (havoids : detail.avoids prototypeKey = true) :
    KeepsShape detail (redactAuditDetail env mode detail) := by
  have hsame : Json.SameShape detail
      (detail.update "errorMessage" (onText env.sanitizeDiagnosticString)) := by
    have hupdate : Json.SameShape (detail.update "errorMessage" id)
        (detail.update "errorMessage" (onText env.sanitizeDiagnosticString)) :=
      (Json.SameBut.refl detail).update fun x y hrel => hrel.trans (sameBut_onText _ _ y)
    rwa [Json.update_id] at hupdate
  rw [redactAuditDetail, if_neg hmode]
  rcases redactUnknownStrings_shape env hmode (hsame.avoids_eq ▸ havoids) with
    ⟨hdeep, herror⟩ | ⟨out, hfits, hok, hshape⟩
  · exact .inl ⟨hsame.height_eq ▸ hdeep, herror⟩
  · exact .inr ⟨out, hsame.height_eq ▸ hfits, hok, hsame.trans hshape⟩

theorem Redactor.redact_shape (redactor : Redactor) {mode : RedactionMode} (hmode : mode ≠ .none)
    {payload : Json N} (hdistinct : payload.distinct = true)
    (havoids : payload.avoids prototypeKey = true) :
    KeepsShape payload (redactor.redact env payload mode) := by
  have hwalk : ∀ tables, KeepsShape payload (redactUnknownStrings env mode tables payload) :=
    fun tables => redactUnknownStrings_shape env hmode havoids
  cases redactor with
  | reviewReport =>
      rw [redact, redactReviewReport, if_neg hmode]
      exact hwalk _
  | decisionReceipts =>
      rw [redact, redactDecisionReceipts, if_neg hmode]
      exact hwalk _
  | diagnosticPayload =>
      rw [redact, redactDiagnosticPayload, if_neg hmode]
      exact hwalk _
  | auditDetail => exact redactAuditDetail_shape env hmode havoids
  | sessionState =>
      rw [redact, redactSessionState, if_neg hmode]
      rcases hwalk Redaction.sessionState with ⟨hdeep, herror⟩ | ⟨out, hfits, hok, hshape⟩
      · exact .inl ⟨hdeep, by rw [herror]; rfl⟩
      · refine .inr ⟨_, hfits, by rw [hok]; rfl, ?_⟩
        exact foldl_shape (fun _ name h => maskIdentityFromSource_shape env mode hdistinct h name)
          hshape _

/-! ### Audit events -/

/-- Apart from the strings under these keys, the same value. -/
def SameButTexts (keys : List String) (key : String) (a b : Json N) : Prop :=
  a = b ∨ key ∈ keys ∧ ∃ text text', a = .string text ∧ b = .string text'

/-- What two audit events may differ in: an actor's identity, and the hidden
strings of the detail. -/
inductive MaskedField (key : String) : Json N → Json N → Prop
  | same (value : Json N) : MaskedField key value value
  | actorInfo {fields fields' : List (String × Json N)} (hkey : key = "actorInfo")
      (hfields : Json.AlikeFields (SameButTexts ["id", "email", "displayName"]) fields fields') :
      MaskedField key (.object fields) (.object fields')
  | detail {detail detail' : Json N} (hkey : key = "detail") (hobject : isObject detail = true)
      (hsame : Json.SameBut auditDetail.hidden none detail detail') :
      MaskedField key detail detail'

theorem foldl_onText_congr (mask : String) {keys : List String}
    {fields fields' : List (String × Json N)}
    (halike : Json.AlikeFields (SameButTexts keys) fields fields') :
    keys.foldl (fun masked key => masked.update key (onText fun _ => mask)) (.object fields) =
      keys.foldl (fun masked key => masked.update key (onText fun _ => mask))
        (Json.object fields') := by
  induction keys generalizing fields fields' with
  | nil =>
      have heq : fields = fields' := Json.AlikeFields.eq <| halike.imp fun _ _ hfield =>
        ⟨hfield.1, hfield.2.resolve_right fun hkey => absurd hkey.1 List.not_mem_nil⟩
      rw [heq]
  | cons key keys ih =>
      apply ih
      refine halike.update (fun a b hrel => ?_) fun name a b hname hrel => ?_
      · rcases hrel with rfl | ⟨_, text, text', rfl, rfl⟩
        · exact .inl rfl
        · exact .inl rfl
      · rcases hrel with rfl | ⟨hmem, htexts⟩
        · exact .inl rfl
        · exact .inr ⟨(List.mem_cons.1 hmem).resolve_left hname, htexts⟩

theorem maskActorInfo_congr {a b : Json N} (hmasked : MaskedField "actorInfo" a b) :
    maskActorInfo env .basic a = maskActorInfo env .basic b := by
  cases hmasked with
  | same => rfl
  | actorInfo _ hfields => exact foldl_onText_congr "[REDACTED]" hfields
  | detail hkey => exact absurd hkey (by decide)

/-- Apart from the detail the same value, or details that are redacted alike. -/
def SameButDetail (key : String) (a b : Json N) : Prop :=
  a = b ∨ key = "detail" ∧ isObject a = true ∧ Json.SameBut auditDetail.hidden none a b

theorem redactEventDetail_congr {fields fields' : List (String × Json N)}
    (hnodup : (keysOf fields).Nodup)
    (halike : Json.AlikeFields SameButDetail fields fields') :
    redactEventDetail env .basic (.object fields) =
      redactEventDetail env .basic (.object fields') := by
  have hsettled : (∀ a b, fields.lookup "detail" = some a → fields'.lookup "detail" = some b →
      a = b) → fields = fields' := by
    intro hdetail
    refine (halike.of_lookup hnodup fun key a b hlookup hlookup' hrel => ?_).eq
    by_cases hkey : key = "detail"
    · subst hkey
      exact hdetail a b hlookup hlookup'
    · exact hrel.resolve_right fun hrest => hkey hrest.1
  rcases halike.lookup "detail" with ⟨hnone, _⟩ | ⟨value, value', hvalue, hvalue', hrel⟩
  · rw [hsettled fun a b hlookup => nomatch hnone.symm.trans hlookup]
  · rcases hrel with rfl | ⟨_, hobject, hsame⟩
    · rw [hsettled fun a b hlookup hlookup' => Option.some.inj
        ((hlookup.symm.trans hvalue).trans (hvalue'.symm.trans hlookup'))]
    · have hget : (Json.object fields).get? "detail" = some value := hvalue
      have hget' : (Json.object fields').get? "detail" = some value' := hvalue'
      have hredacted : redactAuditDetail env .basic value = redactAuditDetail env .basic value' :=
        Redactor.redact_congr env .auditDetail hsame
      have hupdate : ∀ redacted : Json N,
          (Json.object fields).update "detail" (fun _ => redacted) =
            (Json.object fields').update "detail" fun _ => redacted := by
        intro redacted
        refine congrArg Json.object (Json.AlikeFields.eq ?_)
        exact halike.update (fun _ _ _ => rfl) fun name a b hname hrel =>
          hrel.resolve_right fun hrest => hname hrest.1
      unfold redactEventDetail
      simp only [hget, hget', hobject, isObject_congr hsame ▸ hobject, hredacted, hupdate, if_true]

/-- Two audit events that differ in masked strings only are redacted alike. -/
theorem redactAuditEvent_congr {fields fields' : List (String × Json N)}
    (hnodup : (keysOf fields).Nodup)
    (halike : Json.AlikeFields MaskedField fields fields') :
    redactAuditEvent env .basic (.object fields) = redactAuditEvent env .basic (.object fields') := by
  have hkeys := Json.keysOf_updateFields "actorInfo" (maskActorInfo env .basic) fields
  refine redactEventDetail_congr env (hkeys ▸ hnodup) ?_
  refine halike.update (fun a b hmasked => .inl (maskActorInfo_congr env hmasked))
    fun name a b hname hmasked => ?_
  cases hmasked with
  | same => exact .inl rfl
  | actorInfo hkey => exact absurd hkey hname
  | detail hkey hobject hsame => exact .inr ⟨hkey, hobject, hsame⟩

theorem sameBut_maskActorInfo (mode : RedactionMode) (key : Option String) (actorInfo : Json N) :
    Json.SameBut (fun _ => true) key actorInfo (maskActorInfo env mode actorInfo) := by
  unfold maskActorInfo
  split_ifs
  · exact foldl_shape (fun result name hsame => by
      rw [← Json.update_id name actorInfo]
      exact hsame.update fun x y hrel => hrel.trans (sameBut_onText _ _ y)) (.refl _) _
  · exact .refl _

/-- A redacted audit event keeps its shape, unless its detail is nested beyond
the bound. -/
theorem redactAuditEvent_shape {mode : RedactionMode} (hmode : mode ≠ .none) {event : Json N}
    (hdistinct : event.distinct = true) (havoids : event.avoids prototypeKey = true) :
    (∃ detail, event.get? "detail" = some detail ∧ maxRedactDepth < detail.height ∧
      redactAuditEvent env mode event = .error maxDepthExceeded) ∨
      ∃ out, redactAuditEvent env mode event = .ok out ∧ Json.SameShape event out := by
  have hmasked : Json.SameShape event (event.update "actorInfo" (maskActorInfo env mode)) := by
    have hupdate : Json.SameShape (event.update "actorInfo" id)
        (event.update "actorInfo" (maskActorInfo env mode)) :=
      (Json.SameBut.refl event).update fun x y hrel => hrel.trans (sameBut_maskActorInfo env mode _ y)
    rwa [Json.update_id] at hupdate
  rw [redactAuditEvent, if_neg hmode, redactEventDetail]
  rcases hmasked.get? "detail" with ⟨_, hnone⟩ | ⟨detail, detail', hget, hget', hrel⟩
  · rw [hnone]
    exact .inr ⟨_, rfl, hmasked⟩
  · simp only [hget']
    split_ifs
    · have havoids' : detail'.avoids prototypeKey = true :=
        hrel.avoids_eq ▸ Json.avoids_of_get? havoids hget
      rcases redactAuditDetail_shape env hmode havoids' with
        ⟨hdeep, herror⟩ | ⟨redacted, _, hok, hshape⟩
      · exact .inl ⟨detail, hget, hrel.height_eq ▸ hdeep, by rw [herror]; rfl⟩
      · refine .inr ⟨_, by rw [hok]; rfl, ?_⟩
        exact hmasked.assign hdistinct hget (hrel.trans hshape.rekey)
    · exact .inr ⟨_, rfl, hmasked⟩

/-- Redaction in basic mode shows no masked string and keeps the shape. -/
theorem basic_redaction (redactor : Redactor) (a b : Json N)
    (fields fields' : List (String × Json N)) :
    (Json.SameBut redactor.tables.hidden none a b →
      redactor.redact env a .basic = redactor.redact env b .basic) ∧
    (a.distinct = true → a.avoids prototypeKey = true →
      KeepsShape a (redactor.redact env a .basic)) ∧
    ((keysOf fields).Nodup → Json.AlikeFields MaskedField fields fields' →
      redactAuditEvent env .basic (.object fields) =
        redactAuditEvent env .basic (.object fields')) ∧
    ((Json.object fields).distinct = true → (Json.object fields).avoids prototypeKey = true →
      (∃ detail, (Json.object fields).get? "detail" = some detail ∧
        maxRedactDepth < detail.height ∧
        redactAuditEvent env .basic (.object fields) = .error maxDepthExceeded) ∨
        ∃ out, redactAuditEvent env .basic (.object fields) = .ok out ∧
          Json.SameShape (.object fields) out) :=
  ⟨redactor.redact_congr env, redactor.redact_shape env (by decide),
    redactAuditEvent_congr env, redactAuditEvent_shape env (by decide)⟩

theorem basic_redaction_findings :
    let env : Environment := ⟨id, id⟩
    let report (title : String) : Json Nat :=
      .object [("verdict", .string "pass"), ("findings", .array [.string title])]
    let event (email : String) : List (String × Json Nat) :=
      [("actorInfo", .object [("email", .string email)]),
        ("detail", .object [("reason", .string email)])]
    Redactor.reviewReport.redact env (report "a") .basic =
      Redactor.reviewReport.redact env (report "b") .basic ∧
    KeepsShape (report "a") (Redactor.reviewReport.redact env (report "a") .basic) ∧
    redactAuditEvent env .basic (.object (event "a")) =
      redactAuditEvent env .basic (.object (event "b")) ∧
    ((∃ detail, (Json.object (event "a")).get? "detail" = some detail ∧
      maxRedactDepth < detail.height ∧
      redactAuditEvent env .basic (.object (event "a")) = .error maxDepthExceeded) ∨
      ∃ out, redactAuditEvent env .basic (.object (event "a")) = .ok out ∧
        Json.SameShape (.object (event "a")) out) := by
  intro env report event
  obtain ⟨hcongr, hshape, hevents, hevent⟩ :=
    basic_redaction env .reviewReport (report "a") (report "b") (event "a") (event "b")
  refine ⟨hcongr ?_, hshape rfl rfl, hevents (by decide) ?_, hevent rfl rfl⟩
  · exact .object (.cons (.string _) (.cons (.array (.cons (.hidden _ _ rfl) .nil)) .nil))
  · refine .cons ⟨rfl, .actorInfo rfl (.cons ⟨rfl, .inr ⟨?_, _, _, rfl, rfl⟩⟩ .nil)⟩
      (.cons ⟨rfl, .detail rfl rfl (.object (.cons (.hidden _ _ ?_) .nil))⟩ .nil)
    · decide
    · decide

/-- Audit events show their actor, payloads nested too deep have no redaction, and
a field under the prototype's key is lost. -/
theorem basic_redaction_shows :
    let env : Environment := ⟨id, id⟩
    let event (actor : String) : Json Nat := .object [("actor", .string actor)]
    let deep : Json Nat := .object [("checks", Nat.repeat (fun value => .array [value]) 64 .null)]
    (Json.SameBut auditDetail.hidden none (event "a") (event "b") ∧
      redactAuditEvent env .basic (event "a") ≠ redactAuditEvent env .basic (event "b")) ∧
    (¬∃ out, redactReviewReport env deep .basic = .ok out) ∧
    ∃ out, redactReviewReport env (.object [("__proto__", (.null : Json Nat))]) .basic = .ok out ∧
      out.fields = [] := by
  intro env event deep
  refine ⟨⟨.object (.cons (.hidden _ _ (by decide)) .nil), ?_⟩, ?_, _, rfl, rfl⟩
  · show (Except.ok (event "a") : Except ExportRedactionError (Json Nat)) ≠ .ok (event "b")
    simp [event]
  · rintro ⟨out, hout⟩
    rcases @Redactor.redact_shape _ env .reviewReport .basic (by decide) deep rfl rfl with
      ⟨_, herror⟩ | ⟨_, hfits, _⟩
    · cases herror.symm.trans hout
    · exact absurd hfits (by decide +kernel)

end GovernedRuntime.Redaction
