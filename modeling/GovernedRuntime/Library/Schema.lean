/-
Schemas of objects with named fields: what they accept, what they keep of it,
and which values they keep whole.
-/
import GovernedRuntime.Library.Json

namespace GovernedRuntime.Library

variable {N : Type}

/-- A test of a value, or the fields of an object, each with its key, whether it
is required, and its own schema.  A strict object has no other fields; of any
other object only the named fields are kept. -/
inductive Schema (N : Type) where
  | leaf (test : Json N → Bool)
  | object (strict : Bool) (shape : List (String × Bool × Schema N))

namespace Schema

abbrev Shape (N : Type) : Type := List (String × Bool × Schema N)

def requiredField (key : String) (schema : Schema N) : String × Bool × Schema N :=
  (key, true, schema)

def optionalField (key : String) (schema : Schema N) : String × Bool × Schema N :=
  (key, false, schema)

def namesAll (shape : Shape N) (fields : List (String × Json N)) : Bool :=
  (keysOf fields).all (keysOf shape).contains

mutual

/-- What is kept of an accepted value, in the order of the shape. -/
def parse : Schema N → Json N → Option (Json N)
  | .leaf test, value => if test value then some value else none
  | .object strict shape, .object fields =>
      if strict && !namesAll shape fields then none
      else (parseShape shape fields).map .object
  | .object _ _, _ => none
termination_by structural schema => schema

def parseShape :
    Shape N → List (String × Json N) → Option (List (String × Json N))
  | [], _ => some []
  | (key, needed, schema) :: rest, fields =>
      match fields.lookup key with
      | none => if needed then none else parseShape rest fields
      | some value =>
          (schema.parse value).bind fun parsed =>
            (parseShape rest fields).map ((key, parsed) :: ·)
termination_by structural shape => shape

end

mutual

/-- Every field is named. -/
def covers : Schema N → Json N → Bool
  | .leaf _, _ => true
  | .object _ shape, .object fields => namesAll shape fields && coversShape shape fields
  | .object _ _, _ => true
termination_by structural schema => schema

def coversShape : Shape N → List (String × Json N) → Bool
  | [], _ => true
  | (key, _, schema) :: rest, fields =>
      (fields.lookup key).all schema.covers && coversShape rest fields
termination_by structural shape => shape

end

mutual

/-- No shape names a key twice, and every key and every test has its property. -/
def Each (K : String → Prop) (P : (Json N → Bool) → Prop) : Schema N → Prop
  | .leaf test => P test
  | .object _ shape => (keysOf shape).Nodup ∧ EachShape K P shape
termination_by structural schema => schema

def EachShape (K : String → Prop) (P : (Json N → Bool) → Prop) : Shape N → Prop
  | [] => True
  | (key, _, schema) :: rest => K key ∧ schema.Each K P ∧ EachShape K P rest
termination_by structural shape => shape

end


/-! ### What is kept -/

theorem keysOf_parseShape {shape : Shape N} {fields kept : List (String × Json N)}
    (hparse : parseShape shape fields = some kept) : (keysOf kept).Sublist (keysOf shape) := by
  induction shape generalizing kept with
  | nil =>
      cases hparse
      exact List.Sublist.refl _
  | cons property rest ih =>
      obtain ⟨key, needed, schema⟩ := property
      rw [parseShape] at hparse
      split at hparse
      · split_ifs at hparse
        exact (ih hparse).cons key
      · obtain ⟨parsed, _, hrest⟩ := Option.bind_eq_some_iff.1 hparse
        obtain ⟨keptRest, hkept, rfl⟩ := Option.map_eq_some_iff.1 hrest
        exact (ih hkept).cons_cons key

/-- A field the shape does not name is passed over. -/
theorem parseShape_cons_of_notMem {shape : Shape N} {key : String}
    (hkey : key ∉ keysOf shape) (value : Json N) (fields : List (String × Json N)) :
    parseShape shape ((key, value) :: fields) = parseShape shape fields := by
  induction shape with
  | nil => rfl
  | cons property rest ih =>
      obtain ⟨name, needed, schema⟩ := property
      rw [keysOf, List.map_cons, List.mem_cons, not_or] at hkey
      have hlookup : ((key, value) :: fields).lookup name = fields.lookup name := by
        rw [List.lookup_cons, beq_false_of_ne (Ne.symm hkey.1)]
      rw [parseShape, parseShape, hlookup, ih hkey.2]

theorem coversShape_cons_of_notMem {shape : Shape N} {key : String}
    (hkey : key ∉ keysOf shape) (value : Json N) (fields : List (String × Json N)) :
    coversShape shape ((key, value) :: fields) = coversShape shape fields := by
  induction shape with
  | nil => rfl
  | cons property rest ih =>
      obtain ⟨name, needed, schema⟩ := property
      rw [keysOf, List.map_cons, List.mem_cons, not_or] at hkey
      have hlookup : ((key, value) :: fields).lookup name = fields.lookup name := by
        rw [List.lookup_cons, beq_false_of_ne (Ne.symm hkey.1)]
      rw [coversShape, coversShape, hlookup, ih hkey.2]

theorem lookup_eq_none_of_sublist {shape : Shape N} {kept : List (String × Json N)}
    {key : String} (hsublist : (keysOf kept).Sublist (keysOf shape))
    (hkey : key ∉ keysOf shape) : kept.lookup key = none := by
  rw [List.lookup_eq_none_iff]
  intro field hmem
  rw [bne_iff_ne]
  rintro rfl
  exact hkey (hsublist.subset (List.mem_map_of_mem hmem))

theorem namesAll_of_sublist {shape : Shape N} {kept : List (String × Json N)}
    (hsublist : (keysOf kept).Sublist (keysOf shape)) : namesAll shape kept = true := by
  rw [namesAll, List.all_eq_true]
  exact fun key hmem => List.contains_iff_mem.2 (hsublist.subset hmem)

/-- What is kept under a named key: what its own schema kept of the field. -/
theorem lookup_parseShape {shape : Shape N} {fields kept : List (String × Json N)}
    {key : String} {needed : Bool} {schema : Schema N} (hnodup : (keysOf shape).Nodup)
    (hparse : parseShape shape fields = some kept) (hmem : (key, needed, schema) ∈ shape) :
    (needed = false ∧ fields.lookup key = none ∧ kept.lookup key = none) ∨
      ∃ value parsed, fields.lookup key = some value ∧ schema.parse value = some parsed ∧
        kept.lookup key = some parsed := by
  induction shape generalizing kept with
  | nil => exact absurd hmem List.not_mem_nil
  | cons property rest ih =>
      obtain ⟨name, needed', schema'⟩ := property
      rw [keysOf, List.map_cons, List.nodup_cons] at hnodup
      rw [parseShape] at hparse
      split at hparse
      case h_1 hnone =>
        split_ifs at hparse with hneeded
        rcases List.mem_cons.1 hmem with heq | hmem
        · cases heq
          exact .inl ⟨Bool.not_eq_true _ ▸ hneeded, hnone,
            lookup_eq_none_of_sublist (keysOf_parseShape hparse) hnodup.1⟩
        · exact ih hnodup.2 hparse hmem
      case h_2 value hvalue =>
        obtain ⟨parsed, hparsed, hrest⟩ := Option.bind_eq_some_iff.1 hparse
        obtain ⟨keptRest, hkept, rfl⟩ := Option.map_eq_some_iff.1 hrest
        rcases List.mem_cons.1 hmem with heq | hlater
        · cases heq
          exact .inr ⟨value, parsed, hvalue, hparsed, List.lookup_cons_self⟩
        · have hne : key ≠ name := by
            rintro rfl
            exact hnodup.1 (List.mem_map.2 ⟨_, hlater, rfl⟩)
          rw [List.lookup_cons, beq_false_of_ne hne]
          exact ih hnodup.2 hkept hlater

mutual

theorem parse_distinct {K : String → Prop} {P : (Json N → Bool) → Prop}
    {value kept : Json N} : (schema : Schema N) → schema.Each K P → value.distinct = true →
    schema.parse value = some kept → kept.distinct = true
  | .leaf test, _, hdistinct, hparse => by
      rw [parse] at hparse
      obtain ⟨_, heq⟩ := Option.ite_none_right_eq_some.1 hparse
      cases heq
      exact hdistinct
  | .object strict shape, heach, hdistinct, hparse => by
      cases value with
      | object fields =>
          rw [parse] at hparse
          obtain ⟨_, hshape⟩ := Option.ite_none_left_eq_some.1 hparse
          obtain ⟨keptFields, hkept, rfl⟩ := Option.map_eq_some_iff.1 hshape
          exact Json.distinct_object.2 ⟨heach.1.sublist (keysOf_parseShape hkept),
            parseShape_distinct shape heach.2 (Json.distinct_object.1 hdistinct).2 hkept⟩
      | _ => cases hparse

theorem parseShape_distinct {K : String → Prop} {P : (Json N → Bool) → Prop}
    {fields kept : List (String × Json N)} : (shape : Shape N) → EachShape K P shape →
    (∀ field ∈ fields, field.2.distinct = true) → parseShape shape fields = some kept →
    ∀ field ∈ kept, field.2.distinct = true
  | [], _, _, hparse => by
      cases hparse
      exact fun _ hmem => absurd hmem List.not_mem_nil
  | (key, needed, schema) :: rest, heach, hdistinct, hparse => by
      rw [parseShape] at hparse
      split at hparse
      · split_ifs at hparse
        exact parseShape_distinct rest heach.2.2 hdistinct hparse
      case h_2 value hvalue =>
        obtain ⟨parsed, hparsed, hrest⟩ := Option.bind_eq_some_iff.1 hparse
        obtain ⟨keptRest, hkept, rfl⟩ := Option.map_eq_some_iff.1 hrest
        exact List.forall_mem_cons.2
          ⟨parse_distinct schema heach.2.1 (hdistinct _ (mem_of_lookup hvalue)) hparsed,
            parseShape_distinct rest heach.2.2 hdistinct hkept⟩

end

/-! ### Keeping only what is whole -/

section Whole

variable {form : Json N → Json N} {whole : Json N → Prop} {K : String → Prop}

/-- A leaf that is accepted has the form of one that is whole. -/
def WholeLeaf (form : Json N → Json N) (whole : Json N → Prop) (test : Json N → Bool) : Prop :=
  ∀ value, test value = true → value.distinct = true →
    ∃ pure, test pure = true ∧ form pure = form value ∧ whole pure ∧ pure.distinct = true

/-- The form of an object is one of the forms of its fields, and it is whole when
they are. -/
structure FieldForm (form : Json N → Json N) (whole : Json N → Prop) (K : String → Prop) :
    Prop where
  form_eq : ∀ {fields fields' : List (String × Json N)},
    fields.map (Prod.map id form) = fields'.map (Prod.map id form) →
      form (.object fields) = form (.object fields')
  whole_object : ∀ {fields : List (String × Json N)},
    (∀ field ∈ fields, K field.1 ∧ whole field.2) → whole (.object fields)

mutual

/-- What is kept has the form of a value that the schema accepts as it is and
that is whole. -/
theorem exists_whole (hform : FieldForm form whole K) {value kept : Json N} :
    (schema : Schema N) → schema.Each K (WholeLeaf form whole) → value.distinct = true →
    schema.parse value = some kept →
    ∃ pure, schema.parse pure = some pure ∧ form pure = form kept ∧
      schema.covers pure = true ∧ whole pure ∧ pure.distinct = true
  | .leaf test, heach, hdistinct, hparse => by
      rw [parse] at hparse
      obtain ⟨htest, heq⟩ := Option.ite_none_right_eq_some.1 hparse
      cases heq
      obtain ⟨pure, hpure, hsame, hwhole, hdistinct⟩ := heach value htest hdistinct
      exact ⟨pure, if_pos hpure, hsame, rfl, hwhole, hdistinct⟩
  | .object strict shape, heach, hdistinct, hparse => by
      cases value with
      | object fields =>
          rw [parse] at hparse
          obtain ⟨_, hshape⟩ := Option.ite_none_left_eq_some.1 hparse
          obtain ⟨keptFields, hkept, rfl⟩ := Option.map_eq_some_iff.1 hshape
          obtain ⟨pure, hpure, hsame, hcovers, hitems, hsublist⟩ :=
            exists_wholeShape hform shape heach.2 heach.1 (Json.distinct_object.1 hdistinct).2
              hkept
          have hnames := namesAll_of_sublist hsublist
          refine ⟨.object pure, ?_, hform.form_eq hsame, ?_, ?_, ?_⟩
          · rw [parse, hnames, Bool.not_true, Bool.and_false, if_neg Bool.false_ne_true, hpure]
            rfl
          · rw [covers, hnames, hcovers]
            rfl
          · exact hform.whole_object fun field hmem => (hitems field hmem).1
          · exact Json.distinct_object.2
              ⟨heach.1.sublist hsublist, fun field hmem => (hitems field hmem).2⟩
      | _ => cases hparse

theorem exists_wholeShape (hform : FieldForm form whole K)
    {fields kept : List (String × Json N)} : (shape : Shape N) →
    EachShape K (WholeLeaf form whole) shape → (keysOf shape).Nodup →
    (∀ field ∈ fields, field.2.distinct = true) → parseShape shape fields = some kept →
    ∃ pure, parseShape shape pure = some pure ∧
      pure.map (Prod.map id form) = kept.map (Prod.map id form) ∧
      coversShape shape pure = true ∧
      (∀ field ∈ pure, (K field.1 ∧ whole field.2) ∧ field.2.distinct = true) ∧
      (keysOf pure).Sublist (keysOf shape)
  | [], _, _, _, hparse => by
      cases hparse
      exact ⟨[], rfl, rfl, rfl, fun _ hmem => absurd hmem List.not_mem_nil,
        List.Sublist.refl _⟩
  | (key, needed, schema) :: rest, heach, hnodup, hdistinct, hparse => by
      rw [keysOf, List.map_cons, List.nodup_cons] at hnodup
      rw [parseShape] at hparse
      split at hparse
      case h_1 =>
        split_ifs at hparse with hneeded
        obtain ⟨pure, hpure, hsame, hcovers, hitems, hsublist⟩ :=
          exists_wholeShape hform rest heach.2.2 hnodup.2 hdistinct hparse
        have hnone := lookup_eq_none_of_sublist hsublist hnodup.1
        refine ⟨pure, ?_, hsame, ?_, hitems, hsublist.cons key⟩
        · rw [parseShape, hnone]
          exact (if_neg hneeded).trans hpure
        · rw [coversShape, hnone, hcovers]
          rfl
      case h_2 value hvalue =>
        obtain ⟨parsed, hparsed, hrest⟩ := Option.bind_eq_some_iff.1 hparse
        obtain ⟨keptRest, hkept, rfl⟩ := Option.map_eq_some_iff.1 hrest
        obtain ⟨pure, hpure, hsame, hcovers, hitems, hsublist⟩ :=
          exists_wholeShape hform rest heach.2.2 hnodup.2 hdistinct hkept
        obtain ⟨first, hfirst, hfirstSame, hfirstCovers, hfirstWhole, hfirstDistinct⟩ :=
          exists_whole hform schema heach.2.1 (hdistinct _ (mem_of_lookup hvalue)) hparsed
        refine ⟨(key, first) :: pure, ?_, ?_, ?_, ?_, hsublist.cons_cons key⟩
        · rw [parseShape, List.lookup_cons_self]
          dsimp only
          rw [hfirst, Option.bind_some, parseShape_cons_of_notMem hnodup.1, hpure]
          rfl
        · rw [List.map_cons, List.map_cons, hsame, Prod.map_apply, Prod.map_apply, hfirstSame]
        · rw [coversShape, List.lookup_cons_self, coversShape_cons_of_notMem hnodup.1, hcovers,
            Option.all_some, hfirstCovers]
          rfl
        · exact List.forall_mem_cons.2
            ⟨⟨⟨heach.1, hfirstWhole⟩, hfirstDistinct⟩, hitems⟩

end

end Whole

/-! ### Values that are kept whole -/

section Kept

variable {K : String → Prop} {P : (Json N → Bool) → Prop}

mutual

/-- Nothing of a covered value is lost. -/
theorem sameValue_of_covers {value kept : Json N} : (schema : Schema N) →
    schema.Each K P → value.distinct = true → schema.covers value = true →
    schema.parse value = some kept → Json.SameValue kept value
  | .leaf test, _, _, _, hparse => by
      rw [parse] at hparse
      obtain ⟨_, heq⟩ := Option.ite_none_right_eq_some.1 hparse
      cases heq
      rfl
  | .object strict shape, heach, hdistinct, hcovers, hparse => by
      cases value with
      | object fields =>
          rw [parse] at hparse
          obtain ⟨_, hshape⟩ := Option.ite_none_left_eq_some.1 hparse
          obtain ⟨keptFields, hkept, rfl⟩ := Option.map_eq_some_iff.1 hshape
          rw [covers, Bool.and_eq_true] at hcovers
          rw [Json.distinct_object] at hdistinct
          have hsublist := keysOf_parseShape hkept
          refine (Json.sameValue_object_iff (heach.1.sublist hsublist) hdistinct.1).2 ?_
          intro key
          by_cases hkey : key ∈ keysOf shape
          · exact lookup_of_coversShape shape heach.2 heach.1 hdistinct.2 hcovers.2 hkept hkey
          · rw [lookup_eq_none_of_sublist hsublist hkey]
            have hnone : fields.lookup key = none := by
              rw [List.lookup_eq_none_iff]
              intro field hmem
              rw [bne_iff_ne]
              rintro rfl
              have hnamed := List.all_eq_true.1 hcovers.1 field.1 (List.mem_map_of_mem hmem)
              exact hkey (List.contains_iff_mem.1 hnamed)
            rw [hnone]
      | _ => cases hparse

theorem lookup_of_coversShape {fields kept : List (String × Json N)} {key : String} :
    (shape : Shape N) → EachShape K P shape → (keysOf shape).Nodup →
    (∀ field ∈ fields, field.2.distinct = true) → coversShape shape fields = true →
    parseShape shape fields = some kept → key ∈ keysOf shape →
    (kept.lookup key).map Json.sortKeys = (fields.lookup key).map Json.sortKeys
  | [], _, _, _, _, _, hkey => absurd hkey List.not_mem_nil
  | (name, needed, schema) :: rest, heach, hnodup, hdistinct, hcovers, hparse, hkey => by
      rw [keysOf, List.map_cons, List.nodup_cons] at hnodup
      rw [coversShape, Bool.and_eq_true] at hcovers
      rw [parseShape] at hparse
      have hrest := fun {kept' : List (String × Json N)}
          (hkept : parseShape rest fields = some kept') (hmem : key ∈ keysOf rest) =>
        lookup_of_coversShape rest heach.2.2 hnodup.2 hdistinct hcovers.2 hkept hmem
      split at hparse
      case h_1 hnone =>
        split_ifs at hparse
        rcases List.mem_cons.1 hkey with rfl | hmem
        · rw [lookup_eq_none_of_sublist (keysOf_parseShape hparse) hnodup.1]
          exact (congrArg (Option.map Json.sortKeys) hnone).symm
        · exact hrest hparse hmem
      case h_2 value hvalue =>
        obtain ⟨parsed, hparsed, hmore⟩ := Option.bind_eq_some_iff.1 hparse
        obtain ⟨keptRest, hkept, rfl⟩ := Option.map_eq_some_iff.1 hmore
        by_cases hname : key = name
        · subst hname
          rw [hvalue, Option.all_some] at hcovers
          have hsame := sameValue_of_covers schema heach.2.1
            (hdistinct _ (mem_of_lookup hvalue)) hcovers.1 hparsed
          rw [List.lookup_cons_self, hvalue]
          exact congrArg some hsame
        · rw [List.lookup_cons, beq_false_of_ne hname]
          exact hrest hkept ((List.mem_cons.1 hkey).resolve_left hname)

end

theorem namesAll_of_lookup {shape : Shape N} {fields fields' : List (String × Json N)}
    (hsame : ∀ key, (fields.lookup key).map Json.sortKeys =
      (fields'.lookup key).map Json.sortKeys)
    (hnames : namesAll shape fields = true) : namesAll shape fields' = true := by
  rw [namesAll, List.all_eq_true] at hnames ⊢
  intro key hkey
  refine hnames key ?_
  obtain ⟨field, hfield, rfl⟩ := List.mem_map.1 hkey
  have hsome : (fields'.lookup field.1).isSome = true :=
    List.lookup_isSome_iff.2 ⟨field, hfield, beq_self_eq_true _⟩
  have hmapped := congrArg Option.isSome (hsame field.1)
  rw [Option.isSome_map, Option.isSome_map, hsome] at hmapped
  obtain ⟨other, hother, hname⟩ := List.lookup_isSome_iff.1 hmapped
  rw [eq_of_beq hname]
  exact List.mem_map_of_mem hother

mutual

/-- Whether a value is covered does not depend on the order of its fields. -/
theorem covers_of_sameValue {a b : Json N} : (schema : Schema N) → a.distinct = true →
    b.distinct = true → Json.SameValue a b → schema.covers a = true →
    schema.covers b = true
  | .leaf _, _, _, _, _ => rfl
  | .object _ shape, ha, hb, hsame, hcovers => by
      cases b with
      | object fields' =>
          obtain ⟨fields, rfl⟩ := Json.exists_fields_of_sameValue hsame
          rw [Json.distinct_object] at ha hb
          rw [Json.sameValue_object_iff ha.1 hb.1] at hsame
          rw [covers, Bool.and_eq_true] at hcovers ⊢
          exact ⟨namesAll_of_lookup hsame hcovers.1,
            coversShape_of_lookup shape ha.2 hb.2 hsame hcovers.2⟩
      | _ => rfl

theorem coversShape_of_lookup {fields fields' : List (String × Json N)} :
    (shape : Shape N) → (∀ field ∈ fields, field.2.distinct = true) →
    (∀ field ∈ fields', field.2.distinct = true) →
    (∀ key, (fields.lookup key).map Json.sortKeys = (fields'.lookup key).map Json.sortKeys) →
    coversShape shape fields = true → coversShape shape fields' = true
  | [], _, _, _, _ => rfl
  | (key, _, schema) :: rest, ha, hb, hsame, hcovers => by
      rw [coversShape, Bool.and_eq_true] at hcovers ⊢
      refine ⟨?_, coversShape_of_lookup rest ha hb hsame hcovers.2⟩
      cases hvalue' : fields'.lookup key with
      | none => rfl
      | some value' =>
          have hkey := hsame key
          rw [hvalue', Option.map_some, Option.map_eq_some_iff] at hkey
          obtain ⟨value, hvalue, hsorted⟩ := hkey
          rw [hvalue, Option.all_some] at hcovers
          exact covers_of_sameValue schema (ha _ (mem_of_lookup hvalue))
            (hb _ (mem_of_lookup hvalue')) hsorted hcovers.1

end

end Kept

/-! ### Reading again what was kept -/

section Again

variable {K K' : String → Prop} {P P' : (Json N → Bool) → Prop}

mutual

theorem Each.imp (hkey : ∀ {key}, K key → K' key) (hleaf : ∀ {test}, P test → P' test) :
    (schema : Schema N) → schema.Each K P → schema.Each K' P'
  | .leaf _, heach => hleaf heach
  | .object _ shape, heach => ⟨heach.1, EachShape.imp hkey hleaf shape heach.2⟩

theorem EachShape.imp (hkey : ∀ {key}, K key → K' key) (hleaf : ∀ {test}, P test → P' test) :
    (shape : Shape N) → EachShape K P shape → EachShape K' P' shape
  | [], _ => trivial
  | (_, _, schema) :: rest, heach =>
      ⟨hkey heach.1, Each.imp hkey hleaf schema heach.2.1,
        EachShape.imp hkey hleaf rest heach.2.2⟩

end

theorem EachShape.of_mem {shape : Shape N} (heach : EachShape K P shape)
    {property : String × Bool × Schema N} (hmem : property ∈ shape) :
    property.2.2.Each K P := by
  induction shape with
  | nil => exact absurd hmem List.not_mem_nil
  | cons first rest ih =>
      rcases List.mem_cons.1 hmem with rfl | hmem
      · exact heach.2.1
      · exact ih heach.2.2 hmem

/-- What was kept is kept whole. -/
theorem parse_kept {schema : Schema N} {value kept : Json N} (heach : schema.Each K P)
    (hdistinct : value.distinct = true) (hparse : schema.parse value = some kept) :
    schema.parse kept = some kept ∧ schema.covers kept = true := by
  have hform : FieldForm (N := N) id (fun _ => True) (fun _ => True) := by
    refine ⟨fun {fields fields'} hsame => ?_, fun _ => trivial⟩
    rw [Prod.map_id, List.map_id, List.map_id] at hsame
    rw [hsame]
  have hleaf : schema.Each (fun _ => True) (WholeLeaf id fun _ => True) :=
    Each.imp (fun _ => trivial) (fun _ value htest hdistinct =>
      ⟨value, htest, rfl, trivial, hdistinct⟩) schema heach
  obtain ⟨pure, hpure, hsame, hcovers, _⟩ := exists_whole hform schema hleaf hdistinct hparse
  rw [id, id] at hsame
  rw [← hsame]
  exact ⟨hpure, hcovers⟩

/-- A function that goes into objects and keeps every test satisfied commutes
with reading. -/
structure FieldMap (f : Json N → Json N) : Prop where
  object : ∀ fields, f (.object fields) = .object (fields.map (Prod.map id f))

mutual

theorem parse_map {f : Json N → Json N} (hf : FieldMap f) {value kept : Json N} :
    (schema : Schema N) → schema.Each K (fun test => ∀ v, test v = true → test (f v) = true) →
    schema.parse value = some kept → schema.parse (f value) = some (f kept)
  | .leaf test, hleaf, hparse => by
      rw [parse] at hparse
      obtain ⟨htest, heq⟩ := Option.ite_none_right_eq_some.1 hparse
      cases heq
      exact if_pos (hleaf value htest)
  | .object strict shape, heach, hparse => by
      cases value with
      | object fields =>
          rw [parse] at hparse
          obtain ⟨hnames, hshape⟩ := Option.ite_none_left_eq_some.1 hparse
          obtain ⟨kept, hkept, rfl⟩ := Option.map_eq_some_iff.1 hshape
          have hkeys : namesAll shape (fields.map (Prod.map id f)) = namesAll shape fields := by
            rw [namesAll, keysOf_map, namesAll]
          rw [hf.object, hf.object, parse, hkeys, if_neg hnames,
            parseShape_map hf shape heach.2 hkept]
          rfl
      | _ => cases hparse

theorem parseShape_map {f : Json N → Json N} (hf : FieldMap f)
    {fields kept : List (String × Json N)} :
    (shape : Shape N) → EachShape K (fun test => ∀ v, test v = true → test (f v) = true) shape →
    parseShape shape fields = some kept →
    parseShape shape (fields.map (Prod.map id f)) = some (kept.map (Prod.map id f))
  | [], _, hparse => by
      cases hparse
      rfl
  | (key, needed, schema) :: rest, heach, hparse => by
      rw [parseShape] at hparse ⊢
      rw [lookup_map]
      split at hparse
      case h_1 hnone =>
        split_ifs at hparse with hneeded
        rw [hnone]
        exact (if_neg hneeded).trans (parseShape_map hf rest heach.2.2 hparse)
      case h_2 value hvalue =>
        obtain ⟨parsed, hparsed, hrest⟩ := Option.bind_eq_some_iff.1 hparse
        obtain ⟨keptRest, hkept, rfl⟩ := Option.map_eq_some_iff.1 hrest
        rw [hvalue, Option.map_some]
        dsimp only
        rw [parse_map hf schema heach.2.1 hparsed, Option.bind_some,
          parseShape_map hf rest heach.2.2 hkept]
        rfl

end

/-- Fields are accepted when each one the shape names is, or may be absent. -/
theorem parseShape_isSome {shape : Shape N} {fields : List (String × Json N)}
    (hfields : ∀ property ∈ shape,
      (fields.lookup property.1 = none ∧ property.2.1 = false) ∨
        ∃ value, fields.lookup property.1 = some value ∧
          (property.2.2.parse value).isSome = true) :
    (parseShape shape fields).isSome = true := by
  induction shape with
  | nil => rfl
  | cons property rest ih =>
      obtain ⟨key, needed, schema⟩ := property
      rw [List.forall_mem_cons] at hfields
      have hrest := ih hfields.2
      rw [parseShape]
      rcases hfields.1 with ⟨hnone, hneeded⟩ | ⟨value, hvalue, hparse⟩
      · rw [hnone]
        dsimp only at hneeded ⊢
        rw [hneeded]
        exact hrest
      · obtain ⟨parsed, hparsed⟩ := Option.isSome_iff_exists.1 hparse
        rw [hvalue]
        dsimp only
        rw [hparsed, Option.bind_some, Option.isSome_map]
        exact hrest

theorem coversShape_of_forall {shape : Shape N} {fields : List (String × Json N)}
    (hfields : ∀ property ∈ shape, ∀ value, fields.lookup property.1 = some value →
      property.2.2.covers value = true) : coversShape shape fields = true := by
  induction shape with
  | nil => rfl
  | cons property rest ih =>
      rw [List.forall_mem_cons] at hfields
      rw [coversShape, ih hfields.2, Bool.and_true, Option.all_eq_true]
      exact hfields.1

end Again

end Schema

end GovernedRuntime.Library
