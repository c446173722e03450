/-
The canonical serialization that hash inputs go through
(`src/shared/canonical-json.ts`), and what it shows of a value.
-/
import GovernedRuntime.Library.JsonText

namespace GovernedRuntime.Audit

open GovernedRuntime.Library

variable {N : Type}

/-- The key whose assignment to a plain object sets its prototype instead. -/
def prototypeKey : String := "__proto__"

/-- Keys sorted at every depth.  The fields are assigned to a plain object one
after another, so a field under the prototype's key leaves nothing. -/
def canonicalize : Json N → Json N :=
  Json.fold { Json.Algebra.rebuild with
    object := fun fields => .object (arrange (fields.filter (·.1 != prototypeKey))) }

def canonicalJsonStringify [JsonNumber N] (value : Json N) : String :=
  (canonicalize value).stringify

/-- What the canonical text of a value shows of it. -/
def canonicalForm [JsonNumber N] (value : Json N) : Json N := (canonicalize value).printed

/-- Values whose canonical text shows all of them: finite numbers, and no field
under the prototype's key. -/
def isPlain [JsonNumber N] : Json N → Bool :=
  Json.fold
    { null := true
      bool := fun _ => true
      number := fun value => (JsonNumber.numeral value).isSome
      string := fun _ => true
      array := fun items => items.all id
      object := fun fields => fields.all fun field => field.1 != prototypeKey && field.2 }

theorem canonicalize_array (items : List (Json N)) :
    canonicalize (.array items) = .array (items.map canonicalize) :=
  Json.fold_array _ items

/-- The fields that `canonicalize` keeps. -/
def ownFields {α : Type} (fields : List (String × α)) : List (String × α) :=
  fields.filter (·.1 != prototypeKey)

theorem ownFields_map {α β : Type} (f : α → β) (fields : List (String × α)) :
    ownFields (fields.map (Prod.map id f)) = (ownFields fields).map (Prod.map id f) :=
  List.filter_map

theorem keysOf_ownFields_sublist {α : Type} (fields : List (String × α)) :
    (keysOf (ownFields fields)).Sublist (keysOf fields) :=
  List.filter_sublist.map Prod.fst

theorem ownFields_perm {α : Type} {fields fields' : List (String × α)}
    (hperm : fields.Perm fields') : (ownFields fields).Perm (ownFields fields') :=
  hperm.filter _

theorem lookup_ownFields {α : Type} {key : String} (hkey : key ≠ prototypeKey)
    (fields : List (String × α)) : (ownFields fields).lookup key = fields.lookup key :=
  @lookup_filter α (· != prototypeKey) key (bne_iff_ne.2 hkey) fields

theorem canonicalize_object (fields : List (String × Json N)) :
    canonicalize (.object fields) =
      .object ((arrange (ownFields fields)).map (Prod.map id canonicalize)) := by
  rw [← arrange_map, ← ownFields_map]
  exact Json.fold_object _ fields

theorem mem_arrange_ownFields {fields : List (String × Json N)} {field : String × Json N} :
    field ∈ arrange (ownFields fields) ↔ field ∈ fields ∧ field.1 ≠ prototypeKey := by
  rw [mem_arrange, ownFields, List.mem_filter, bne_iff_ne]

theorem ownFields_arrange (fields : List (String × Json N)) :
    ownFields (arrange (ownFields fields)) = arrange (ownFields fields) :=
  List.filter_eq_self.2 fun _ hmem => bne_iff_ne.2 (mem_arrange_ownFields.1 hmem).2

variable [JsonNumber N]

theorem canonicalForm_array (items : List (Json N)) :
    canonicalForm (.array items) = .array (items.map canonicalForm) := by
  rw [canonicalForm, canonicalize_array, Json.printed_array, List.map_map]
  rfl

theorem canonicalForm_object (fields : List (String × Json N)) :
    canonicalForm (.object fields) =
      .object ((arrange (ownFields fields)).map (Prod.map id canonicalForm)) := by
  rw [canonicalForm, canonicalize_object, Json.printed_object, List.map_map]
  rfl

theorem canonicalJsonStringify_object (fields : List (String × Json N)) :
    ∃ middle, (canonicalJsonStringify (.object fields)).toList = '{' :: (middle ++ ['}']) := by
  rw [canonicalJsonStringify, canonicalize_object]
  exact Json.stringify_object _

theorem isPlain_array {items : List (Json N)} :
    isPlain (.array items) = true ↔ ∀ item ∈ items, isPlain item = true := by
  have heq : isPlain (.array items) = (items.map isPlain).all id := Json.fold_array _ items
  rw [heq, List.all_map, List.all_eq_true]
  rfl

theorem isPlain_object {fields : List (String × Json N)} :
    isPlain (.object fields) = true ↔
      ∀ field ∈ fields, field.1 ≠ prototypeKey ∧ isPlain field.2 = true := by
  have heq : isPlain (.object fields) =
      (fields.map (Prod.map id isPlain)).all fun field => field.1 != prototypeKey && field.2 :=
    Json.fold_object _ fields
  rw [heq, List.all_map, List.all_eq_true]
  simp only [Function.comp_apply, Prod.map_fst, Prod.map_snd, id, Bool.and_eq_true, bne_iff_ne]

theorem canonicalForm_null : canonicalForm (.null : Json N) = .null := rfl

theorem canonicalForm_string (text : String) :
    canonicalForm (.string text : Json N) = .string text :=
  rfl

theorem canonicalForm_number (value : N) :
    canonicalForm (.number value) =
      if (JsonNumber.numeral value).isSome then .number value else .null :=
  rfl

theorem canonicalForm_number_eq_iff {m n : N} :
    canonicalForm (.number m) = canonicalForm (.number n) ↔
      JsonNumber.numeral m = JsonNumber.numeral n := by
  rw [canonicalForm_number, canonicalForm_number]
  cases hm : JsonNumber.numeral m with
  | none => cases hn : JsonNumber.numeral n <;> simp
  | some text =>
      cases hn : JsonNumber.numeral n with
      | none => simp
      | some other =>
          simp only [Option.isSome_some, if_true, Json.number.injEq, Option.some.injEq]
          rw [← JsonNumber.ofNumeral_numeral hm, ← JsonNumber.ofNumeral_numeral hn]
          constructor
          · intro heq
            rw [JsonNumber.ofNumeral_numeral hm, JsonNumber.ofNumeral_numeral hn] at heq
            exact Option.some.inj (hm.symm.trans ((congrArg _ heq).trans hn))
          · exact congrArg JsonNumber.ofNumeral

theorem canonicalJsonStringify_eq (value : Json N) :
    canonicalJsonStringify value = (canonicalForm value).stringify :=
  (Json.stringify_printed _).symm

theorem canonicalForm_idem (value : Json N) :
    canonicalForm (canonicalForm value) = canonicalForm value := by
  induction value using Json.inductionOn with
  | null => rfl
  | bool value => rfl
  | number value =>
      rw [canonicalForm_number]
      split_ifs with hfinite
      · exact if_pos hfinite
      · rfl
  | string value => rfl
  | array items ih =>
      have hitems : items.map (canonicalForm ∘ canonicalForm) = items.map canonicalForm :=
        List.map_congr_left ih
      rw [canonicalForm_array, canonicalForm_array, List.map_map, hitems]
  | object fields ih =>
      have hfields : (arrange (ownFields fields)).map
          (Prod.map id canonicalForm ∘ Prod.map id canonicalForm) =
          (arrange (ownFields fields)).map (Prod.map id canonicalForm) := by
        refine List.map_congr_left fun field hmem => ?_
        exact Prod.ext rfl (ih field (mem_arrange_ownFields.1 hmem).1)
      rw [canonicalForm_object, canonicalForm_object, ownFields_map, ownFields_arrange,
        arrange_map, arrange_eq_self (arrange_pairwise _), List.map_map, hfields]

theorem canonicalForm_distinct {value : Json N} (hdistinct : value.distinct = true) :
    (canonicalForm value).distinct = true := by
  induction value using Json.inductionOn with
  | null => rfl
  | bool value => rfl
  | number value =>
      rw [canonicalForm_number]
      split_ifs <;> rfl
  | string value => rfl
  | array items ih =>
      rw [Json.distinct_array] at hdistinct
      rw [canonicalForm_array, Json.distinct_array, List.forall_mem_map]
      exact fun item hmem => ih item hmem (hdistinct item hmem)
  | object fields ih =>
      rw [Json.distinct_object] at hdistinct
      rw [canonicalForm_object, Json.distinct_object, keysOf_map, List.forall_mem_map]
      have hnodup := hdistinct.1.sublist (keysOf_ownFields_sublist fields)
      refine ⟨((arrange_perm _).map Prod.fst).nodup_iff.2 hnodup, fun field hmem => ?_⟩
      have hfield := (mem_arrange_ownFields.1 hmem).1
      exact ih field hfield (hdistinct.2 field hfield)

/-- All of a canonical form is shown. -/
theorem isPlain_canonicalForm (value : Json N) : isPlain (canonicalForm value) = true := by
  induction value using Json.inductionOn with
  | null => rfl
  | bool value => rfl
  | number value =>
      rw [canonicalForm_number]
      split_ifs with hfinite
      · exact hfinite
      · rfl
  | string value => rfl
  | array items ih =>
      rw [canonicalForm_array, isPlain_array, List.forall_mem_map]
      exact ih
  | object fields ih =>
      rw [canonicalForm_object, isPlain_object, List.forall_mem_map]
      intro field hmem
      obtain ⟨hfield, hkey⟩ := mem_arrange_ownFields.1 hmem
      exact ⟨hkey, ih field hfield⟩

/-- The canonical form of a plain value only has its fields in order. -/
theorem canonicalForm_of_isPlain {value : Json N} (hplain : isPlain value = true) :
    canonicalForm value = value.sortKeys := by
  induction value using Json.inductionOn with
  | null => rfl
  | bool value => rfl
  | number value => exact if_pos hplain
  | string value => rfl
  | array items ih =>
      rw [isPlain_array] at hplain
      have hitems : items.map canonicalForm = items.map Json.sortKeys :=
        List.map_congr_left fun item hmem => ih item hmem (hplain item hmem)
      rw [canonicalForm_array, Json.sortKeys_array, hitems]
  | object fields ih =>
      rw [isPlain_object] at hplain
      have hown : ownFields fields = fields :=
        List.filter_eq_self.2 fun field hmem => bne_iff_ne.2 (hplain field hmem).1
      have hfields : (arrange fields).map (Prod.map id canonicalForm) =
          (arrange fields).map (Prod.map id Json.sortKeys) := by
        refine List.map_congr_left fun field hmem => ?_
        have hfield := mem_arrange.1 hmem
        exact Prod.ext rfl (ih field hfield (hplain field hfield).2)
      rw [canonicalForm_object, Json.sortKeys_object, hown, hfields]

theorem isPrintable_of_isPlain {value : Json N} (hplain : isPlain value = true) :
    value.isPrintable = true := by
  induction value using Json.inductionOn with
  | null => rfl
  | bool value => rfl
  | number value => exact hplain
  | string value => rfl
  | array items ih =>
      rw [isPlain_array] at hplain
      exact Json.isPrintable_array.2 fun item hmem => ih item hmem (hplain item hmem)
  | object fields ih =>
      rw [isPlain_object] at hplain
      exact Json.isPrintable_object.2 fun field hmem => ih field hmem (hplain field hmem).2

theorem isPlain_sortKeys (value : Json N) : isPlain value.sortKeys = isPlain value := by
  rw [Bool.eq_iff_iff]
  induction value using Json.inductionOn with
  | null => rfl
  | bool value => rfl
  | number value => rfl
  | string value => rfl
  | array items ih =>
      rw [Json.sortKeys_array, isPlain_array, isPlain_array, List.forall_mem_map]
      exact forall₂_congr ih
  | object fields ih =>
      rw [Json.sortKeys_object, isPlain_object, isPlain_object, List.forall_mem_map]
      constructor
      · intro hplain field hmem
        obtain ⟨hkey, hvalue⟩ := hplain field (mem_arrange.2 hmem)
        exact ⟨hkey, (ih field hmem).1 hvalue⟩
      · intro hplain field hmem
        have hfield := mem_arrange.1 hmem
        obtain ⟨hkey, hvalue⟩ := hplain field hfield
        exact ⟨hkey, (ih field hfield).2 hvalue⟩

/-- The canonical form does not depend on the order of fields. -/
theorem canonicalForm_sortKeys {value : Json N} (hdistinct : value.distinct = true) :
    canonicalForm value.sortKeys = canonicalForm value := by
  induction value using Json.inductionOn with
  | null => rfl
  | bool value => rfl
  | number value => rfl
  | string value => rfl
  | array items ih =>
      rw [Json.distinct_array] at hdistinct
      have hitems : items.map (canonicalForm ∘ Json.sortKeys) = items.map canonicalForm :=
        List.map_congr_left fun item hmem => ih item hmem (hdistinct item hmem)
      rw [Json.sortKeys_array, canonicalForm_array, canonicalForm_array, List.map_map, hitems]
  | object fields ih =>
      rw [Json.distinct_object] at hdistinct
      have hperm := ownFields_perm (arrange_perm fields)
      have hnodup := hdistinct.1.sublist (keysOf_ownFields_sublist fields)
      have hfields : (arrange (ownFields fields)).map
          (Prod.map id canonicalForm ∘ Prod.map id Json.sortKeys) =
          (arrange (ownFields fields)).map (Prod.map id canonicalForm) := by
        refine List.map_congr_left fun field hmem => ?_
        have hfield := (mem_arrange_ownFields.1 hmem).1
        exact Prod.ext rfl (ih field hfield (hdistinct.2 field hfield))
      rw [Json.sortKeys_object, canonicalForm_object, canonicalForm_object, ownFields_map,
        arrange_map, arrange_congr ((hperm.map Prod.fst).nodup_iff.2 hnodup) hperm,
        List.map_map, hfields]

/-- Fields under the same distinct keys are the same once they are arranged the same. -/
theorem eq_of_arrange_eq {α : Type} {fields others : List (String × α)}
    (hkeys : keysOf fields = keysOf others) (hnodup : (keysOf fields).Nodup)
    (heq : arrange fields = arrange others) : fields = others := by
  have hperm : fields.Perm others :=
    (arrange_perm fields).symm.trans (heq ▸ arrange_perm others)
  clear heq
  induction fields generalizing others with
  | nil => exact hperm.symm.eq_nil.symm
  | cons field fields ih =>
      cases others with
      | nil => cases hkeys
      | cons other others =>
          obtain ⟨hkey, hrest⟩ := List.cons.inj hkeys
          have hvalue : field = other := by
            have hmem : (field.1, field.2) ∈ other :: others := hperm.mem_iff.1 List.mem_cons_self
            have hothers : (keysOf (other :: others)).Nodup := hkeys ▸ hnodup
            refine Prod.ext hkey (eq_of_mem_of_keys_nodup hothers hmem ?_)
            rw [hkey]
            exact List.mem_cons_self
          subst hvalue
          rw [ih hrest (List.nodup_cons.1 hnodup).2 hperm.cons_inv]

/-- Objects with the same keys have one canonical form when their fields have. -/
theorem canonicalForm_object_eq_iff {fields others : List (String × Json N)}
    (hkeys : keysOf fields = keysOf others) (hnodup : (keysOf fields).Nodup)
    (hown : prototypeKey ∉ keysOf fields) :
    canonicalForm (.object fields) = canonicalForm (.object others) ↔
      fields.map (Prod.map id canonicalForm) = others.map (Prod.map id canonicalForm) := by
  have hform : ∀ some : List (String × Json N), prototypeKey ∉ keysOf some →
      canonicalForm (.object some) = .object (arrange (some.map (Prod.map id canonicalForm))) := by
    intro some hsome
    have hself : ownFields some = some := by
      refine List.filter_eq_self.2 fun field hmem => bne_iff_ne.2 ?_
      rintro heq
      exact hsome (heq ▸ List.mem_map_of_mem hmem)
    rw [canonicalForm_object, hself, arrange_map]
  rw [hform fields hown, hform others (hkeys ▸ hown), Json.object.injEq]
  constructor
  · apply eq_of_arrange_eq
    · rw [keysOf_map, keysOf_map, hkeys]
    · rw [keysOf_map]
      exact hnodup
  · exact congrArg arrange

/-- Objects have one canonical form when every key shows the same in both. -/
theorem canonicalForm_object_eq_iff_lookup {fields others : List (String × Json N)}
    (hnodup : (keysOf fields).Nodup) (hnodup' : (keysOf others).Nodup) :
    canonicalForm (.object fields) = canonicalForm (.object others) ↔
      ∀ key ≠ prototypeKey,
        (fields.lookup key).map canonicalForm = (others.lookup key).map canonicalForm := by
  have hlookup : ∀ {some : List (String × Json N)}, (keysOf some).Nodup → ∀ key ≠ prototypeKey,
      ((arrange (ownFields some)).map (Prod.map id canonicalForm)).lookup key =
        (some.lookup key).map canonicalForm := by
    intro some hsome key hkey
    have hown := hsome.sublist (keysOf_ownFields_sublist some)
    rw [lookup_map, ← lookup_congr hown (arrange_perm _).symm, lookup_ownFields hkey]
  have hkeys : ∀ {some : List (String × Json N)}, (keysOf some).Nodup →
      (keysOf ((ownFields some).map (Prod.map id canonicalForm))).Nodup := by
    intro some hsome
    rw [keysOf_map]
    exact hsome.sublist (keysOf_ownFields_sublist some)
  rw [canonicalForm_object, canonicalForm_object, Json.object.injEq]
  constructor
  · intro heq key hkey
    rw [← hlookup hnodup key hkey, heq, hlookup hnodup' key hkey]
  · intro hsame
    rw [← arrange_map, ← arrange_map]
    apply arrange_congr (hkeys hnodup)
    apply (List.perm_ext_iff_of_nodup (.of_map _ (hkeys hnodup)) (.of_map _ (hkeys hnodup'))).2
    rintro ⟨key, value⟩
    rw [← lookup_eq_some_iff_mem (hkeys hnodup), ← lookup_eq_some_iff_mem (hkeys hnodup'),
      lookup_map, lookup_map]
    by_cases hkey : key = prototypeKey
    · have hnone : ∀ some : List (String × Json N), (ownFields some).lookup key = none := by
        intro some
        apply List.lookup_eq_none_iff.2
        intro field hmem
        exact bne_iff_ne.2 fun heq => (mem_arrange_ownFields.1 (mem_arrange.2 hmem)).2
          (heq ▸ hkey)
      rw [hnone, hnone]
    · rw [lookup_ownFields hkey, lookup_ownFields hkey, hsame key hkey]

/-- Equal canonical texts show equal forms, and equal forms have equal texts. -/
theorem canonicalJsonStringify_eq_iff {a b : Json N} (ha : a.distinct = true)
    (hb : b.distinct = true) :
    canonicalJsonStringify a = canonicalJsonStringify b ↔
      canonicalForm a = canonicalForm b := by
  constructor
  · intro heq
    rw [canonicalJsonStringify_eq, canonicalJsonStringify_eq] at heq
    have hprinted := Json.printed_eq_of_stringify_eq (canonicalForm_distinct ha)
      (canonicalForm_distinct hb) heq
    rwa [canonicalForm, canonicalForm, Json.printed_idem, Json.printed_idem] at hprinted
  · intro heq
    rw [canonicalJsonStringify_eq, canonicalJsonStringify_eq, heq]

end GovernedRuntime.Audit
