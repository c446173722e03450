/-
What the final hash of an accepted trail commits to: every field that the schemas
name and the canonical serialization shows, in every record.
-/
import GovernedRuntime.Audit.Integrity
import GovernedRuntime.Library.HashChain

namespace GovernedRuntime.Audit

open GovernedRuntime.Activation GovernedRuntime.Library GovernedRuntime.State

variable {N : Type} [JsonNumber N]

/-! ### Verification sees canonical forms only -/

theorem Alike.verified {hashText : String → String} {event event' : Json N}
    (halike : Alike event event') {lastHash : String} {index : Nat}
    (hverified : Verified hashText event lastHash index) :
    Verified hashText event' lastHash index := by
  have htext : ∀ {key : String}, key ≠ prototypeKey → textOf event' key = textOf event key :=
    fun hkey => (halike.textOf_eq hkey).symm
  constructor
  · rw [htext (by decide)]
    exact hverified.formatVersion
  · rw [htext (by decide)]
    exact hverified.prevHash
  · rw [htext (by decide), htext (by decide), computeChainHash, chainHashInput,
      ← (halike.without ["chainHash"]).canonicalJsonStringify_eq]
    exact hverified.chainHash
  · rw [← halike.sequenceOf_eq]
    exact hverified.sequence
  · rw [htext (by decide), computeCanonicalEventDigest, canonicalEventContent,
      ← (halike.without excludedFields).canonicalJsonStringify_eq]
    exact hverified.semanticDigest

/-- The two fields are both absent, or alike. -/
theorem Alike.get?_cases {a b : Json N} (halike : Alike a b) {key : String}
    (hkey : key ≠ prototypeKey) :
    (a.get? key = none ∧ b.get? key = none) ∨
      ∃ field field', a.get? key = some field ∧ b.get? key = some field' ∧
        Alike field field' := by
  have hrel := halike.get? hkey
  cases hleft : a.get? key with
  | none =>
      cases hright : b.get? key with
      | none => exact .inl ⟨rfl, rfl⟩
      | some field' =>
          rw [hleft, hright] at hrel
          cases hrel
  | some field =>
      cases hright : b.get? key with
      | none =>
          rw [hleft, hright] at hrel
          cases hrel
      | some field' =>
          rw [hleft, hright] at hrel
          cases hrel with
          | some hfield => exact .inr ⟨field, field', rfl, rfl, hfield⟩

theorem Alike.verifyTsaMessageImprint_eq {event event' : Json N} (halike : Alike event event')
    (hashText : String → String) :
    verifyTsaMessageImprint hashText event = verifyTsaMessageImprint hashText event' := by
  have hdigest : computeCanonicalEventDigest hashText event =
      computeCanonicalEventDigest hashText event' := by
    rw [computeCanonicalEventDigest, canonicalEventContent,
      (halike.without excludedFields).canonicalJsonStringify_eq]
    rfl
  have hstored : fieldText event "semanticEventDigest" =
      fieldText event' "semanticEventDigest" := halike.fieldText_eq (by decide)
  have hpath : "timestampEvidence" ≠ prototypeKey := by decide
  rw [verifyTsaMessageImprint, verifyTsaMessageImprint, hdigest, hstored]
  rcases halike.get?_cases hpath with
    ⟨hleft, hright⟩ | ⟨evidence, evidence', hleft, hright, hevidence⟩
  · rw [hleft, hright]
  · have hstatus : fieldText evidence "status" = fieldText evidence' "status" :=
      hevidence.fieldText_eq (by decide)
    have hpath : "tsa" ≠ prototypeKey := by decide
    rw [hleft, hright]
    dsimp only
    rw [hstatus]
    rcases hevidence.get?_cases hpath with
      ⟨hleft, hright⟩ | ⟨tsa, tsa', hleft, hright, htsa⟩
    · rw [hleft, hright]
    · have himprint : fieldText tsa "messageImprint" = fieldText tsa' "messageImprint" :=
        htsa.fieldText_eq (by decide)
      have htoken : fieldText tsa "tokenDerBase64" = fieldText tsa' "tokenDerBase64" :=
        htsa.fieldText_eq (by decide)
      rw [hleft, hright]
      dsimp only
      rw [himprint, htoken]

theorem Alike.missesCriticalEvidence_eq {event event' : Json N} (halike : Alike event event')
    (criticalKinds : List String) :
    missesCriticalEvidence criticalKinds event = missesCriticalEvidence criticalKinds event' := by
  have hkind : textOf event "event" = textOf event' "event" := halike.textOf_eq (by decide)
  have hpath : "timestampEvidence" ≠ prototypeKey := by decide
  rw [missesCriticalEvidence, missesCriticalEvidence, hkind]
  rcases halike.get?_cases hpath with
    ⟨hleft, hright⟩ | ⟨evidence, evidence', hleft, hright, hevidence⟩
  · rw [hleft, hright]
  · have hstatus : fieldText evidence "status" = fieldText evidence' "status" :=
      hevidence.fieldText_eq (by decide)
    rw [hleft, hright]
    dsimp only
    rw [hstatus]

theorem monotonicityFrom_eq_of_alike {events events' : List (Json N)}
    (halike : List.Forall₂ Alike events events') (i : Nat) (previous : Option (Int × String)) :
    monotonicityFrom i previous events = monotonicityFrom i previous events' := by
  induction halike generalizing i previous with
  | nil => rfl
  | @cons event event' _ _ hhead _ ih =>
      have hrecorded : textOf event "recordedAt" = textOf event' "recordedAt" :=
        hhead.textOf_eq (by decide)
      have hoccurred : textOf event "occurredAt" = textOf event' "occurredAt" :=
        hhead.textOf_eq (by decide)
      rw [monotonicityFrom, monotonicityFrom, hrecorded, hoccurred]
      simp only [ih]

/-- Events read at one position that no canonical text tells apart. -/
def AlikeAt (a b : Nat × Json N) : Prop := a.1 = b.1 ∧ Alike a.2 b.2

theorem map_fst_eq_of_alikeAt {as bs : List (Nat × Json N)} (halike : List.Forall₂ AlikeAt as bs) :
    as.map Prod.fst = bs.map Prod.fst := by
  induction halike with
  | nil => rfl
  | cons hhead _ ih => rw [List.map_cons, List.map_cons, hhead.1, ih]

theorem forall₂_snd_of_alikeAt {as bs : List (Nat × Json N)}
    (halike : List.Forall₂ AlikeAt as bs) :
    List.Forall₂ Alike (as.map Prod.snd) (bs.map Prod.snd) := by
  induction halike with
  | nil => exact .nil
  | cons hhead _ ih => exact .cons hhead.2 ih

theorem verifyTimestampChecks_eq_of_alikeAt {as bs : List (Nat × Json N)}
    (halike : List.Forall₂ AlikeAt as bs) (hashText : String → String)
    (strictTimestamps : Bool) :
    verifyTimestampChecks hashText as strictTimestamps =
      verifyTimestampChecks hashText bs strictTimestamps := by
  have hmonotone : verifyTimestampMonotonicity (as.map Prod.snd) =
      verifyTimestampMonotonicity (bs.map Prod.snd) :=
    monotonicityFrom_eq_of_alike (forall₂_snd_of_alikeAt halike) 0 none
  have hposition : ∀ position : Nat,
      (as[position]?).map Prod.fst = (bs[position]?).map Prod.fst := by
    intro position
    rw [← List.getElem?_map, ← List.getElem?_map, map_fst_eq_of_alikeAt halike]
  have hfailing : (as.filterMap fun entry =>
        if (verifyTsaMessageImprint hashText entry.2).valid then none
        else some (entry.1, verifyTsaMessageImprint hashText entry.2)) =
      bs.filterMap fun entry =>
        if (verifyTsaMessageImprint hashText entry.2).valid then none
        else some (entry.1, verifyTsaMessageImprint hashText entry.2) := by
    refine filterMap_eq_of_forall₂ (fun {a b} hab => ?_) halike
    rw [hab.1, hab.2.verifyTsaMessageImprint_eq]
  have hmissing : (as.filter fun entry =>
        missesCriticalEvidence ["decision", "lifecycle"] entry.2).map Prod.fst =
      (bs.filter fun entry =>
        missesCriticalEvidence ["decision", "lifecycle"] entry.2).map Prod.fst := by
    clear hmonotone hposition hfailing
    induction halike with
    | nil => rfl
    | cons hhead _ ih =>
        rw [List.filter_cons, List.filter_cons, hhead.2.missesCriticalEvidence_eq]
        split_ifs
        · rw [List.map_cons, List.map_cons, hhead.1, ih]
        · exact ih
  unfold verifyTimestampChecks
  dsimp only
  rw [hmonotone, hmissing, hfailing]
  simp only [hposition]

/-! ### Records of one canonical form -/

/-- Two records whose events no canonical text tells apart. -/
def SameEvent (raw raw' : Json N) : Prop :=
  ∃ event event', safeParse raw = some event ∧ safeParse raw' = some event' ∧
    Alike event event'

theorem numberedEvents_of_sameEvent {raws raws' : List (Json N)}
    (hsame : List.Forall₂ SameEvent raws raws') (index : Nat) :
    List.Forall₂ AlikeAt (numberedEvents index raws) (numberedEvents index raws') := by
  induction hsame generalizing index with
  | nil => exact .nil
  | cons hhead _ ih =>
      obtain ⟨event, event', hparse, hparse', halike⟩ := hhead
      rw [numberedEvents, hparse, numberedEvents, hparse']
      exact .cons ⟨rfl, halike⟩ (ih _)

theorem chained_of_sameEvent {hashText : String → String} {expected : Option String}
    {raws raws' : List (Json N)} {lastHash : String} {session : Option String}
    (hsame : List.Forall₂ SameEvent raws raws')
    (hchained : Chained hashText expected raws lastHash session) :
    Chained hashText expected raws' lastHash session := by
  induction hchained generalizing raws' with
  | nil =>
      cases hsame
      exact .nil
  | snoc _ hparse hverified hsession ih =>
      obtain ⟨init, last, rfl, hinit, hlast⟩ := exists_of_forall₂_concat hsame
      obtain ⟨event, event', hevent, hparse', halike⟩ := hlast
      have hsome := Option.some_inj.1 (hevent.symm.trans hparse)
      subst hsome
      have hid : textOf event "flowguardSessionId" = textOf event' "flowguardSessionId" :=
        halike.textOf_eq (by decide)
      have hhash : textOf event "chainHash" = textOf event' "chainHash" :=
        halike.textOf_eq (by decide)
      have hverified' := halike.verified hverified
      rw [hinit.length_eq] at hverified'
      rw [trailSession, hid] at hsession ⊢
      rw [hhash]
      exact (ih hinit).snoc hparse' hverified' hsession

/-- A trail of the same events is accepted or refused alike. -/
theorem verifyChain_valid_of_sameEvent {hashText : String → String} {raws raws' : List (Json N)}
    {options : ChainVerifyOptions} (hsame : List.Forall₂ SameEvent raws raws')
    (hvalid : (verifyChain hashText raws options).valid = true) :
    (verifyChain hashText raws' options).valid = true := by
  rw [verifyChain_valid_iff] at hvalid ⊢
  obtain ⟨⟨lastHash, session, hchained⟩, htimestamps⟩ := hvalid
  refine ⟨⟨lastHash, session, chained_of_sameEvent hsame hchained⟩, ?_⟩
  rw [TimestampsPass, ← verifyTimestampChecks_eq_of_alikeAt
    (numberedEvents_of_sameEvent hsame 0)]
  exact htimestamps

/-! ### The last hash -/

theorem ne_empty_of_isSha256Hex {hash : String} (hhex : isSha256Hex hash = true) : hash ≠ "" := by
  rintro rfl
  revert hhex
  decide

theorem isChainedEvent_of_safeParse {raw event : Json N} (hparse : safeParse raw = some event) :
    isChainedEvent raw = true := by
  obtain ⟨hhex, hchain, _⟩ := chainHash_of_safeParse hparse
  obtain ⟨hprev, hprevText, _⟩ := prevHash_of_safeParse hparse
  have hne : textOf event "prevHash" ≠ "" := by
    intro hempty
    rw [hempty] at hprev
    revert hprev
    decide
  rw [isChainedEvent, hchain, hprevText, truthy_some (ne_empty_of_isSha256Hex hhex),
    truthy_some hne]
  rfl

/-- The writer's last hash is the one verification ends with. -/
theorem Chained.getLastChainHash_eq {hashText : String → String} {expected : Option String}
    {raws : List (Json N)} {lastHash : String} {session : Option String}
    (hchained : Chained hashText expected raws lastHash session) :
    getLastChainHash raws = lastHash := by
  cases hchained with
  | nil => rfl
  | snoc _ hparse _ _ =>
      rw [getLastChainHash, List.reverse_append, List.reverse_singleton, List.singleton_append,
        List.find?_cons_of_pos (isChainedEvent_of_safeParse hparse), Option.map_some,
        Option.getD_some, textOf, (chainHash_of_safeParse hparse).2.1, Option.getD_some]

/-- What one accepted record adds to the chain. -/
def Links (hashText : String → String) (raws : List (Json N)) (lastHash : String)
    (raw : Json N) (nextHash : String) : Prop :=
  raw.distinct = true ∧ ∃ event, safeParse raw = some event ∧
    Verified hashText event lastHash raws.length ∧ nextHash = textOf event "chainHash"

theorem Chained.hashChain {hashText : String → String} {expected : Option String}
    {raws : List (Json N)} {lastHash : String} {session : Option String}
    (hchained : Chained hashText expected raws lastHash session)
    (hdistinct : ∀ raw ∈ raws, raw.distinct = true) :
    HashChain genesisHash (Links hashText) raws lastHash := by
  induction hchained with
  | nil => exact .nil
  | snoc _ hparse hverified _ ih =>
      rw [List.forall_mem_append, List.forall_mem_singleton] at hdistinct
      exact (ih hdistinct.1).snoc ⟨hdistinct.2, _, hparse, hverified, rfl⟩

theorem not_links_genesis {hashText : String → String} {raws : List (Json N)}
    {lastHash : String} {raw : Json N} : ¬Links hashText raws lastHash raw genesisHash := by
  rintro ⟨_, event, hparse, _, hgenesis⟩
  have hhex := (chainHash_of_safeParse hparse).1
  rw [← hgenesis] at hhex
  revert hhex
  decide

/-! ### What a chain hash binds -/

/-- No hash has a colon. -/
theorem colon_notMem_of_safeParse {raw event : Json N} (hparse : safeParse raw = some event) :
    ':' ∉ (textOf event "prevHash").toList := by
  intro hmem
  have hprev := (prevHash_of_safeParse hparse).1
  rw [Bool.or_eq_true, beq_iff_eq] at hprev
  rcases hprev with hhex | hgenesis
  · rw [isSha256Hex, Bool.and_eq_true, List.all_eq_true] at hhex
    have hcolon := hhex.2 ':' hmem
    revert hcolon
    decide
  · rw [hgenesis] at hmem
    revert hmem
    decide

theorem append_colon_injective {a b : List Char} {as bs : List Char} (ha : ':' ∉ a)
    (hb : ':' ∉ b) (heq : a ++ ':' :: as = b ++ ':' :: bs) : a = b ∧ as = bs := by
  induction a generalizing b with
  | nil =>
      cases b with
      | nil => exact ⟨rfl, (List.cons.inj heq).2⟩
      | cons c b => exact absurd ((List.cons.inj heq).1 ▸ List.mem_cons_self) hb
  | cons c a ih =>
      rw [List.mem_cons, not_or] at ha
      cases b with
      | nil => exact absurd (List.cons.inj heq).1.symm ha.1
      | cons d b =>
          rw [List.mem_cons, not_or] at hb
          obtain ⟨hhead, htail⟩ := List.cons.inj heq
          obtain ⟨hrest, hafter⟩ := ih ha.2 hb.2 htail
          exact ⟨by rw [hhead, hrest], hafter⟩

/-- The text that is hashed shows the hash before it and the rest of the event. -/
theorem chainHashInput_injective {prev prev' : String} {value value' : Json N}
    (hprev : ':' ∉ prev.toList) (hprev' : ':' ∉ prev'.toList)
    (heq : chainHashInput prev value = chainHashInput prev' value') :
    prev = prev' ∧ canonicalJsonStringify value = canonicalJsonStringify value' := by
  have hlist := congrArg String.toList heq
  simp only [chainHashInput, String.toList_append, List.append_assoc] at hlist
  have hrest := List.append_cancel_left hlist
  obtain ⟨hhead, htail⟩ := append_colon_injective hprev hprev'
    (List.cons.inj hrest).2
  exact ⟨String.toList_injective hhead, String.toList_injective htail⟩

/-! ### What an accepted trail commits to -/

/-- An object is what one field and the others make it. -/
theorem canonicalForm_eq_of_without {a b : Json N} {key : String} {value : Json N}
    (hkey : key ≠ prototypeKey) (ha : a.distinct = true) (hb : b.distinct = true)
    (hgetA : a.get? key = some value) (hgetB : b.get? key = some value)
    (hrest : canonicalForm (a.without [key]) = canonicalForm (b.without [key])) :
    canonicalForm a = canonicalForm b := by
  have hself : ∀ {v : Json N}, v.distinct = true → v.get? key = some value →
      ∃ rest, canonicalForm (v.without [key]) = .object rest ∧
        ∃ fields, canonicalForm v = .object (arrange fields) ∧ (keysOf fields).Nodup ∧
          fields.Perm ((key, canonicalForm value) :: rest) := by
    intro v hv hget
    cases v with
    | object fields =>
        obtain ⟨hnodup, _⟩ := Json.distinct_object.1 hv
        refine ⟨_, canonicalForm_object _, (ownFields fields).map (Prod.map id canonicalForm),
          ?_, ?_, ?_⟩
        · rw [canonicalForm_object, arrange_map]
        · rw [keysOf_map]
          exact hnodup.sublist (keysOf_ownFields_sublist fields)
        · have hown : ∀ others : List (String × Json N),
              ownFields ((key, value) :: others) = (key, value) :: ownFields others :=
            fun others => List.filter_cons_of_pos (bne_iff_ne.2 hkey)
          have hperm := ownFields_perm (perm_cons_of_lookup hnodup hget)
          rw [hown] at hperm
          have hmapped := hperm.map (Prod.map id canonicalForm)
          exact hmapped.trans (((arrange_perm _).symm.map _).cons _)
    | _ => cases hget
  obtain ⟨restA, hrestA, fieldsA, hformA, hnodupA, hpermA⟩ := hself ha hgetA
  obtain ⟨restB, hrestB, fieldsB, hformB, hnodupB, hpermB⟩ := hself hb hgetB
  rw [hrestA, hrestB, Json.object.injEq] at hrest
  subst hrest
  rw [hformA, hformB, arrange_congr hnodupA (hpermA.trans hpermB.symm)]

theorem links_injective {hashText : String → String} (hinjective : Function.Injective hashText)
    {raws raws' : List (Json N)} {lastHash lastHash' nextHash : String} {raw raw' : Json N}
    (hlinks : Links hashText raws lastHash raw nextHash)
    (hlinks' : Links hashText raws' lastHash' raw' nextHash) :
    lastHash = lastHash' ∧ SameEvent raw raw' := by
  obtain ⟨hraw, event, hparse, hverified, rfl⟩ := hlinks
  obtain ⟨hraw', event', hparse', hverified', hnext⟩ := hlinks'
  have hdistinct := distinct_of_safeParse hraw hparse
  have hdistinct' := distinct_of_safeParse hraw' hparse'
  have hinput := hinjective
    ((hverified.chainHash.trans hnext).trans hverified'.chainHash.symm)
  obtain ⟨hprev, hcanonical⟩ := chainHashInput_injective (colon_notMem_of_safeParse hparse)
    (colon_notMem_of_safeParse hparse') hinput
  have hrest := (canonicalJsonStringify_eq_iff (Json.without_distinct _ hdistinct)
    (Json.without_distinct _ hdistinct')).1 hcanonical
  refine ⟨(hverified.prevHash.symm.trans hprev).trans hverified'.prevHash, event, event',
    hparse, hparse', hdistinct, hdistinct', ?_⟩
  obtain ⟨value, hget, htext⟩ := Option.bind_eq_some_iff.1 (chainHash_of_safeParse hparse).2.2
  obtain ⟨value', hget', htext'⟩ :=
    Option.bind_eq_some_iff.1 (chainHash_of_safeParse hparse').2.2
  have hvalue : ∀ {v : Json N} {text : String}, v.text? = some text → v = .string text := by
    intro v text hv
    cases v with
    | string value =>
        cases hv
        rfl
    | _ => cases hv
  rw [hvalue htext] at hget
  rw [hvalue htext', ← hnext] at hget'
  exact canonicalForm_eq_of_without (by decide) hdistinct hdistinct' hget hget' hrest

/-! ### Records that the final hash covers -/

/-- No field of the record is outside the hashed content: the schemas name every
one of them, and the canonical text shows all of `detail`. -/
def isCovered (raw : Json N) : Bool := isPlain raw && auditEventSchema.covers raw

theorem fieldForm_canonicalForm :
    Schema.FieldForm (N := N) canonicalForm (isPlain · = true) IsOwnKey where
  form_eq := by
    intro fields fields' hsame
    rw [canonicalForm_object, canonicalForm_object, ← arrange_map, ← arrange_map,
      ← ownFields_map, ← ownFields_map, hsame]
  whole_object := fun hfields => isPlain_object.2 hfields

/-- Every accepted record says the same as one that is covered. -/
theorem exists_covered {raw event : Json N} (hdistinct : raw.distinct = true)
    (hparse : safeParse raw = some event) :
    ∃ pure : Json N, pure.distinct = true ∧ isCovered pure = true ∧ SameEvent raw pure := by
  obtain ⟨pure, hpure, hform, hcovers, hplain, hpureDistinct⟩ :=
    Schema.exists_whole fieldForm_canonicalForm auditEventSchema auditEventSchema_each
      hdistinct hparse
  refine ⟨pure, hpureDistinct, Bool.and_eq_true_iff.2 ⟨hplain, hcovers⟩, event, pure, hparse,
    hpure, distinct_of_safeParse hdistinct hparse, hpureDistinct, hform.symm⟩

/-- A covered record is, up to the order of fields, the event read from it. -/
theorem sameValue_of_isCovered {raw event : Json N} (hdistinct : raw.distinct = true)
    (hcovered : isCovered raw = true) (hparse : safeParse raw = some event) :
    Json.SameValue event raw ∧ canonicalForm event = event.sortKeys := by
  obtain ⟨hplain, hcovers⟩ := Bool.and_eq_true_iff.1 hcovered
  have hsame := Schema.sameValue_of_covers auditEventSchema auditEventSchema_each hdistinct
    hcovers hparse
  refine ⟨hsame, canonicalForm_of_isPlain ?_⟩
  rw [← isPlain_sortKeys, hsame, isPlain_sortKeys]
  exact hplain

theorem sameValue_of_sameEvent {raw raw' : Json N} (hraw : raw.distinct = true)
    (hraw' : raw'.distinct = true) (hcovered : isCovered raw = true)
    (hcovered' : isCovered raw' = true) (hsame : SameEvent raw raw') :
    Json.SameValue raw raw' := by
  obtain ⟨event, event', hparse, hparse', halike⟩ := hsame
  obtain ⟨hvalue, hform⟩ := sameValue_of_isCovered hraw hcovered hparse
  obtain ⟨hvalue', hform'⟩ := sameValue_of_isCovered hraw' hcovered' hparse'
  have hevents : event.sortKeys = event'.sortKeys := by
    rw [← hform, halike.form_eq, hform']
  exact (hvalue.symm.trans hevents).trans hvalue'

theorem isCovered_of_sameValue {raw raw' : Json N} (hraw : raw.distinct = true)
    (hraw' : raw'.distinct = true) (hsame : Json.SameValue raw raw')
    (hcovered : isCovered raw = true) : isCovered raw' = true := by
  obtain ⟨hplain, hcovers⟩ := Bool.and_eq_true_iff.1 hcovered
  refine Bool.and_eq_true_iff.2 ⟨?_, Schema.covers_of_sameValue _ hraw hraw' hsame hcovers⟩
  rw [← isPlain_sortKeys, ← hsame, isPlain_sortKeys]
  exact hplain

/-! ### Tamper evidence -/

/-- A record of a trail, as `JSON.parse` builds it. -/
structure Record (N : Type) where
  value : Json N
  distinct : value.distinct = true

/-- The same records in the same order, whatever the order of their fields. -/
def SameTrail (a b : List (Record N)) : Prop :=
  List.Forall₂ (fun raw raw' => Json.SameValue raw.value raw'.value) a b

def accepts (hashText : String → String) (options : ChainVerifyOptions)
    (trail : List (Record N)) : Prop :=
  (verifyChain hashText (trail.map Record.value) options).valid = true

def finalHash (trail : List (Record N)) : String := getLastChainHash (trail.map Record.value)

def IsCovered (trail : List (Record N)) : Prop := ∀ raw ∈ trail, isCovered raw.value = true

omit [JsonNumber N] in
theorem distinct_of_mem_values {trail : List (Record N)} {raw : Json N}
    (hmem : raw ∈ trail.map Record.value) : raw.distinct = true := by
  obtain ⟨record, _, rfl⟩ := List.mem_map.1 hmem
  exact record.distinct

theorem hashChain_of_accepts {hashText : String → String} {options : ChainVerifyOptions}
    {trail : List (Record N)} (haccepts : accepts hashText options trail) :
    HashChain genesisHash (Links hashText) (trail.map Record.value) (finalHash trail) := by
  obtain ⟨⟨lastHash, session, hchained⟩, _⟩ := verifyChain_valid_iff.1 haccepts
  rw [finalHash, hchained.getLastChainHash_eq]
  exact hchained.hashChain fun _ => distinct_of_mem_values

theorem sameEvents_of_finalHash {hashText : String → String}
    (hinjective : Function.Injective hashText) {options options' : ChainVerifyOptions}
    {a b : List (Record N)} (ha : accepts hashText options a)
    (hb : accepts hashText options' b) (hfinal : finalHash a = finalHash b) :
    List.Forall₂ (fun raw raw' => SameEvent raw.value raw'.value) a b := by
  have hchainB := hashChain_of_accepts hb
  rw [← hfinal] at hchainB
  have hsame := (hashChain_of_accepts ha).forall₂_of_same_end not_links_genesis
    not_links_genesis (links_injective hinjective) hchainB
  rwa [List.forall₂_map_left_iff, List.forall₂_map_right_iff] at hsame

theorem Chained.exists_event {hashText : String → String} {expected : Option String}
    {raws : List (Json N)} {lastHash : String} {session : Option String}
    (hchained : Chained hashText expected raws lastHash session) :
    ∀ raw ∈ raws, ∃ event, safeParse raw = some event := by
  induction hchained with
  | nil => exact fun _ hmem => absurd hmem List.not_mem_nil
  | snoc _ hparse _ _ ih =>
      exact List.forall_mem_append.2 ⟨ih, List.forall_mem_singleton.2 ⟨_, hparse⟩⟩

/-- An accepted trail has a covered one that says the same under the same hash. -/
theorem exists_covered_trail {hashText : String → String} {options : ChainVerifyOptions}
    {a : List (Record N)} (ha : accepts hashText options a) :
    ∃ b : List (Record N), accepts hashText options b ∧ IsCovered b ∧
      finalHash a = finalHash b := by
  obtain ⟨⟨lastHash, session, hchained⟩, _⟩ := verifyChain_valid_iff.1 ha
  have hexists : ∀ raw ∈ a, ∃ pure : Record N,
      SameEvent raw.value pure.value ∧ isCovered pure.value = true := by
    intro raw hmem
    obtain ⟨event, hparse⟩ := hchained.exists_event raw.value (List.mem_map_of_mem hmem)
    obtain ⟨pure, hdistinct, hcovered, hsame⟩ := exists_covered raw.distinct hparse
    exact ⟨⟨pure, hdistinct⟩, hsame, hcovered⟩
  obtain ⟨b, hrel⟩ := exists_forall₂ hexists
  have hsame : List.Forall₂ SameEvent (a.map Record.value) (b.map Record.value) := by
    rw [List.forall₂_map_left_iff, List.forall₂_map_right_iff]
    exact hrel.imp fun _ _ h => h.1
  refine ⟨b, verifyChain_valid_of_sameEvent hsame ha, ?_, ?_⟩
  · exact forall_mem_of_forall₂ (fun h _ => h.2) hrel fun _ _ => trivial
  · rw [finalHash, hchained.getLastChainHash_eq, finalHash,
      (chained_of_sameEvent hsame hchained).getLastChainHash_eq]

theorem sameTrail_of_sameEvents {a b : List (Record N)}
    (hsame : List.Forall₂ (fun raw raw' => SameEvent raw.value raw'.value) a b)
    (ha : IsCovered a) (hb : IsCovered b) : SameTrail a b := by
  induction hsame with
  | nil => exact .nil
  | cons hhead _ ih =>
      rw [IsCovered, List.forall_mem_cons] at ha hb
      exact .cons (sameValue_of_sameEvent (Record.distinct _) (Record.distinct _) ha.1 hb.1 hhead)
        (ih ha.2 hb.2)

/-- The final hash of an accepted trail fixes it among the covered trails exactly
when it is covered itself. -/
theorem tamper_evident (hashText : String → String)
    (hinjective : Function.Injective hashText) (options : ChainVerifyOptions)
    (a : List (Record N)) (ha : accepts hashText options a) :
    (∀ options' b, accepts hashText options' b → IsCovered b → finalHash a = finalHash b →
      SameTrail a b) ↔ IsCovered a := by
  constructor
  · intro hfixed
    obtain ⟨b, hb, hcovered, hfinal⟩ := exists_covered_trail ha
    have hsame := hfixed options b hb hcovered hfinal
    refine forall_mem_of_forall₂ (fun {raw' raw} hvalue hraw' => ?_) hsame.flip hcovered
    exact isCovered_of_sameValue raw'.distinct raw.distinct hvalue.symm hraw'
  · intro hcovered options' b hb hcoveredB hfinal
    exact sameTrail_of_sameEvents (sameEvents_of_finalHash hinjective ha hb hfinal) hcovered
      hcoveredB

/-! ### A field that no hash covers -/

def hexOf (digit : Char) : String := String.ofList (List.replicate 64 digit)

/-- An event with its id, its place, the hash before it, the digits of its two digests and
more about its actor. -/
def eventFields (id : String) (auditSequence : Nat) (prevHash : String) (content chain : Char)
    (actorFields : List (String × Json Nat)) : List (String × Json Nat) :=
  [("id", .string id), ("flowguardSessionId", .string "00000000-0000-0000-0000-000000000000"),
    ("phase", .string "TICKET"), ("event", .string "lifecycle:session_created"),
    ("auditFormatVersion", .string currentAuditFormatVersion),
    ("auditSequence", .number auditSequence), ("occurredAt", .string "2026-01-01T00:00:00.000Z"),
    ("recordedAt", .string "2026-01-01T00:00:00.000Z"), ("actor", .string "machine"),
    ("detail", .object []),
    ("actorInfo", .object (("id", .string "alice") :: ("email", .null) ::
      ("source", .string "env") :: ("assurance", .string "best_effort") :: actorFields)),
    ("prevHash", .string prevHash), ("semanticEventDigest", .string (hexOf content)),
    ("chainHash", .string (hexOf chain))]

def recordedFields (actorFields : List (String × Json Nat)) : List (String × Json Nat) :=
  eventFields "00000000-0000-0000-0000-000000000000" 1 genesisHash 'a' 'b' actorFields

/-- The event as it was recorded. -/
def recordedEvent : Record Nat := ⟨.object (recordedFields []), by decide⟩

/-- The same event with its fields the other way round. -/
def reorderedEvent : Record Nat := ⟨.object (recordedFields []).reverse, by decide⟩

/-- The event with a field in `actorInfo` that no schema names. -/
def extendedEvent : Record Nat :=
  ⟨.object (recordedFields [("role", .string "admin")]), by decide⟩

/-- The event after it. -/
def followingEvent : Record Nat :=
  ⟨.object (eventFields "ffffffff-ffff-ffff-ffff-ffffffffffff" 2 (hexOf 'b') 'c' 'd' []),
    by decide⟩

/-- The texts that the two events are hashed as, and the digits of their hashes. -/
def trailTexts : List (String × Char) :=
  [(canonicalEventContent recordedEvent.value, 'a'),
    (chainHashInput genesisHash (recordedEvent.value.without ["chainHash"]), 'b'),
    (canonicalEventContent followingEvent.value, 'c'),
    (chainHashInput (hexOf 'b') (followingEvent.value.without ["chainHash"]), 'd')]

/-- An injective hash that is hexadecimal on the texts of the trail. -/
def eventHash (content : String) : String :=
  (trailTexts.lookup content).elim (String.ofList ('x' :: content.toList)) hexOf

theorem head?_hexOf (digit : Char) : (hexOf digit).toList.head? = some digit := by
  rw [hexOf, String.toList_ofList]
  rfl

theorem digit_of_lookup {content : String} {digit : Char}
    (hlookup : trailTexts.lookup content = some digit) :
    (content, digit) ∈ trailTexts ∧ digit ≠ 'x' := by
  have hmem := mem_of_lookup hlookup
  have hdigit : digit ∈ ['a', 'b', 'c', 'd'] := List.mem_map_of_mem (f := Prod.snd) hmem
  exact ⟨hmem, fun heq => absurd (heq ▸ hdigit) (by decide)⟩

theorem eventHash_of_lookup {content : String} {digit : Char}
    (hlookup : trailTexts.lookup content = some digit) : eventHash content = hexOf digit := by
  rw [eventHash, hlookup, Option.elim_some]

theorem eventHash_of_none {content : String} (hlookup : trailTexts.lookup content = none) :
    eventHash content = String.ofList ('x' :: content.toList) := by
  rw [eventHash, hlookup, Option.elim_none]

theorem head?_eventHash (content : String) :
    (eventHash content).toList.head? = some ((trailTexts.lookup content).getD 'x') := by
  cases hlookup : trailTexts.lookup content with
  | some digit => rw [eventHash_of_lookup hlookup, head?_hexOf, Option.getD_some]
  | none =>
      rw [eventHash_of_none hlookup, String.toList_ofList, List.head?_cons, Option.getD_none]

theorem eventHash_injective : Function.Injective eventHash := by
  have hdigits : (trailTexts.map Prod.snd).Nodup :=
    show ['a', 'b', 'c', 'd'].Nodup by decide
  intro content content' heq
  have hheads := head?_eventHash content
  rw [heq, head?_eventHash content', Option.some_inj] at hheads
  cases hlookup : trailTexts.lookup content with
  | some digit =>
      obtain ⟨hmem, hdigit⟩ := digit_of_lookup hlookup
      cases hlookup' : trailTexts.lookup content' with
      | some digit' =>
          rw [hlookup, hlookup', Option.getD_some, Option.getD_some] at hheads
          exact congrArg Prod.fst (List.inj_on_of_nodup_map hdigits hmem
            (digit_of_lookup hlookup').1 hheads.symm)
      | none =>
          rw [hlookup, hlookup', Option.getD_some, Option.getD_none] at hheads
          exact absurd hheads.symm hdigit
  | none =>
      cases hlookup' : trailTexts.lookup content' with
      | some digit' =>
          rw [hlookup, hlookup', Option.getD_some, Option.getD_none] at hheads
          exact absurd hheads (digit_of_lookup hlookup').2
      | none =>
          rw [eventHash_of_none hlookup, eventHash_of_none hlookup'] at heq
          exact String.toList_injective (List.cons.inj (String.ofList_injective heq)).2

/-- A chain text begins with the format version, the content of an event with a brace. -/
theorem chainHashInput_ne_content {prevHash : String} {value : Json Nat} {fields} :
    chainHashInput prevHash value ≠ canonicalEventContent (N := Nat) (.object fields) := by
  intro heq
  have hhead := congrArg (fun content : String => content.toList.head?) heq
  obtain ⟨middle, hbraces⟩ := canonicalJsonStringify_object
    (fields.filter fun field => !excludedFields.contains field.1)
  have hcontent : (canonicalEventContent (.object fields)).toList = _ := hbraces
  have htag : (chainHashInput prevHash value).toList.head? = some 'a' := by
    rw [chainHashInput, String.append_assoc, String.append_assoc, String.toList_append]
    rfl
  rw [htag, hcontent] at hhead
  exact absurd (Option.some.inj hhead) (by decide)

theorem nodup_trailTexts : (keysOf trailTexts).Nodup := by
  have hcontents : canonicalEventContent recordedEvent.value ≠
      canonicalEventContent followingEvent.value := by
    intro heq
    have hdistinct := Json.without_distinct excludedFields recordedEvent.distinct
    have hdistinct' := Json.without_distinct excludedFields followingEvent.distinct
    have halike : Alike (recordedEvent.value.without excludedFields)
        (followingEvent.value.without excludedFields) :=
      ⟨hdistinct, hdistinct', (canonicalJsonStringify_eq_iff hdistinct hdistinct').1 heq⟩
    have hid := @Alike.textOf_eq _ _ _ _ halike "id" (by decide)
    exact absurd hid (by decide)
  have hchains : chainHashInput genesisHash (recordedEvent.value.without ["chainHash"]) ≠
      chainHashInput (hexOf 'b') (followingEvent.value.without ["chainHash"]) :=
    fun heq => absurd (chainHashInput_injective (by decide) (by decide) heq).1 (by decide)
  refine List.nodup_cons.2 ⟨?_, List.nodup_cons.2 ⟨?_, List.nodup_cons.2 ⟨?_, by simp⟩⟩⟩
  · simp only [List.map_cons, List.map_nil, List.mem_cons, List.not_mem_nil, or_false, not_or]
    exact ⟨chainHashInput_ne_content.symm, hcontents, chainHashInput_ne_content.symm⟩
  · simp only [List.map_cons, List.map_nil, List.mem_cons, List.not_mem_nil, or_false, not_or]
    exact ⟨chainHashInput_ne_content, hchains⟩
  · simp only [List.map_cons, List.map_nil, List.mem_cons, List.not_mem_nil, or_false]
    exact chainHashInput_ne_content.symm

theorem eventHash_of_mem {content : String} {digit : Char}
    (hmem : (content, digit) ∈ trailTexts) : eventHash content = hexOf digit :=
  eventHash_of_lookup ((lookup_eq_some_iff_mem nodup_trailTexts).2 hmem)

theorem eventHash_recorded :
    computeCanonicalEventDigest eventHash recordedEvent.value = hexOf 'a' ∧
      computeChainHash eventHash genesisHash (recordedEvent.value.without ["chainHash"]) =
        hexOf 'b' := by
  rw [computeCanonicalEventDigest, computeChainHash]
  constructor
  · exact eventHash_of_mem (by simp [trailTexts])
  · exact eventHash_of_mem (by simp [trailTexts])

theorem eventHash_following :
    computeCanonicalEventDigest eventHash followingEvent.value = hexOf 'c' ∧
      computeChainHash eventHash (hexOf 'b') (followingEvent.value.without ["chainHash"]) =
        hexOf 'd' := by
  rw [computeCanonicalEventDigest, computeChainHash]
  constructor
  · exact eventHash_of_mem (by simp [trailTexts])
  · exact eventHash_of_mem (by simp [trailTexts])

theorem verified_recordedEvent : Verified eventHash recordedEvent.value genesisHash 0 where
  formatVersion := rfl
  prevHash := rfl
  chainHash := eventHash_recorded.2
  sequence := rfl
  semanticDigest := eventHash_recorded.1

theorem verified_followingEvent : Verified eventHash followingEvent.value (hexOf 'b') 1 where
  formatVersion := rfl
  prevHash := rfl
  chainHash := eventHash_following.2
  sequence := rfl
  semanticDigest := eventHash_following.1

theorem safeParse_recordedEvent :
    safeParse recordedEvent.value = some recordedEvent.value := by rfl

theorem safeParse_followingEvent :
    safeParse followingEvent.value = some followingEvent.value := by rfl

/-- Whatever is read as the first event and is followed by the second one. -/
theorem accepts_of_safeParse {record : Record Nat}
    (hparse : safeParse record.value = some recordedEvent.value) :
    accepts eventHash ⟨false, none⟩ [record, followingEvent] := by
  refine verifyChain_valid_iff.2 ⟨⟨_, _, (Chained.nil.snoc hparse verified_recordedEvent rfl).snoc
    safeParse_followingEvent verified_followingEvent rfl⟩, ?_,
    fun hstrict => absurd hstrict (by decide)⟩
  rw [List.map_cons, List.map_singleton, numberedEvents, hparse, numberedEvents,
    safeParse_followingEvent]
  rfl

theorem accepts_recordedEvent : accepts eventHash ⟨false, none⟩ [recordedEvent, followingEvent] :=
  accepts_of_safeParse safeParse_recordedEvent

/-- Two accepted trails of one final hash whose stored events differ. -/
theorem tamper_not_evident : Function.Injective eventHash ∧
    accepts eventHash ⟨false, none⟩ [recordedEvent, followingEvent] ∧
    accepts eventHash ⟨false, none⟩ [extendedEvent, followingEvent] ∧
    finalHash [recordedEvent, followingEvent] = finalHash [extendedEvent, followingEvent] ∧
    ¬SameTrail [recordedEvent, followingEvent] [extendedEvent, followingEvent] := by
  refine ⟨eventHash_injective, accepts_recordedEvent, accepts_of_safeParse rfl, rfl, ?_⟩
  intro hsame
  have hvalue : Json.SameValue recordedEvent.value extendedEvent.value :=
    (List.forall₂_cons.1 hsame).1
  have hcovered : isCovered extendedEvent.value = true :=
    isCovered_of_sameValue recordedEvent.distinct extendedEvent.distinct hvalue (by decide)
  exact absurd hcovered (by decide)

theorem tamper_evident_recordedEvent :
    SameTrail [recordedEvent, followingEvent] [reorderedEvent, followingEvent] := by
  have hfollowing : IsCovered [followingEvent] := List.forall_mem_singleton.2 (by decide)
  have hcovered : IsCovered [recordedEvent, followingEvent] :=
    List.forall_mem_cons.2 ⟨by decide, hfollowing⟩
  have hcovered' : IsCovered [reorderedEvent, followingEvent] :=
    List.forall_mem_cons.2 ⟨by decide, hfollowing⟩
  exact (tamper_evident eventHash eventHash_injective ⟨false, none⟩
    [recordedEvent, followingEvent] accepts_recordedEvent).2 hcovered ⟨false, none⟩
    [reorderedEvent, followingEvent] (accepts_of_safeParse rfl) hcovered' rfl

end GovernedRuntime.Audit
