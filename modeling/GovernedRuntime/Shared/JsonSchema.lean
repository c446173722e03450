/-
Schemas of the values of a type: what is written for a value, what is read as one, and
that reading what was written loses nothing canonical.
-/
import GovernedRuntime.Audit.CanonicalJson

namespace GovernedRuntime.Shared

open GovernedRuntime.Audit
open GovernedRuntime.Library

/-- A schema without transforms and the values it infers.  What is read of a written and
printed value shows what the value shows, and values that were read are told apart by what
they show. -/
structure JsonSchema (N α : Type) [JsonNumber N] where
  write : α → Json N
  read : Json N → Option α
  distinct_write : ∀ a, (write a).distinct = true
  canonical_of_read : ∀ {a b}, read (write a).printed = some b →
    canonicalForm (write b) = canonicalForm (write a)
  eq_of_canonical : ∀ {value other a b}, read value = some a → read other = some b →
    canonicalForm (write a) = canonicalForm (write b) → a = b
  read_printed : ∀ {a b}, read (write a) = some b → read (write a).printed = some b

/-- The fields of an object under some keys. -/
structure Shape (N : Type) (keys : List String) (α : Type) [JsonNumber N] where
  write : α → List (String × Json N)
  read : List (String × Json N) → Option α
  nodup_keys : keys.Nodup
  own_keys : prototypeKey ∉ keys
  keys_write : ∀ a, (keysOf (write a)).Sublist keys
  distinct_write : ∀ a, ∀ field ∈ write a, field.2.distinct = true
  read_congr : ∀ {fields others : List (String × Json N)},
    (∀ key ∈ keys, fields.lookup key = others.lookup key) → read fields = read others
  canonical_of_read : ∀ {a b}, read ((write a).map (Prod.map id Json.printed)) = some b →
    ∀ key, ((write b).lookup key).map canonicalForm = ((write a).lookup key).map canonicalForm
  eq_of_canonical : ∀ {fields others a b}, read fields = some a → read others = some b →
    (∀ key ∈ keys, ((write a).lookup key).map canonicalForm =
      ((write b).lookup key).map canonicalForm) → a = b
  read_printed : ∀ {a b}, read (write a) = some b →
    read ((write a).map (Prod.map id Json.printed)) = some b

variable {N α β : Type} {keys more : List String} [JsonNumber N]

/-! ### Leaves -/

namespace JsonSchema

def boolean : JsonSchema N Bool where
  write := .bool
  read
    | .bool value => some value
    | _ => none
  distinct_write _ := rfl
  canonical_of_read hread := by rw [Option.some_inj.1 hread]
  eq_of_canonical _ _ heq := by cases heq; rfl
  read_printed hread := hread

def string : JsonSchema N String where
  write := .string
  read
    | .string text => some text
    | _ => none
  distinct_write _ := rfl
  canonical_of_read hread := by rw [Option.some_inj.1 hread]
  eq_of_canonical _ _ heq := by cases heq; rfl
  read_printed hread := hread

/-- A number, which is finite. -/
def number : JsonSchema N N where
  write := .number
  read
    | .number value => if (JsonNumber.numeral value).isSome then some value else none
    | _ => none
  distinct_write _ := rfl
  canonical_of_read := by
    intro a b hread
    rw [Json.printed_number] at hread
    split_ifs at hread with hfinite
    obtain ⟨-, heq⟩ := Option.ite_none_right_eq_some.1 hread
    cases heq
    rfl
  eq_of_canonical := by
    intro value other a b hread hread' heq
    cases value with
    | number first =>
        cases other with
        | number second =>
            obtain ⟨hfinite, ha⟩ := Option.ite_none_right_eq_some.1 hread
            obtain ⟨hfinite', hb⟩ := Option.ite_none_right_eq_some.1 hread'
            cases ha
            cases hb
            rw [canonicalForm_number, canonicalForm_number, if_pos hfinite, if_pos hfinite'] at heq
            exact Json.number.inj heq
        | _ => cases hread'
    | _ => cases hread
  read_printed := by
    intro a b hread
    obtain ⟨hfinite, -⟩ := Option.ite_none_right_eq_some.1 hread
    rw [Json.printed_number, if_pos hfinite]
    exact hread

/-- One of some names, each the text of one value. -/
def enumeration (text : α → String) (ofText : String → Option α)
    (htext : ∀ {a name}, ofText name = some a → text a = name)
    (hinjective : Function.Injective text) : JsonSchema N α where
  write a := .string (text a)
  read
    | .string name => ofText name
    | _ => none
  distinct_write _ := rfl
  canonical_of_read hread := by rw [hinjective (htext hread)]
  eq_of_canonical _ _ heq := hinjective (Json.string.inj heq)
  read_printed hread := hread

/-- The values that pass a further test. -/
def refine (schema : JsonSchema N α) (test : α → Bool) : JsonSchema N α where
  write := schema.write
  read value := (schema.read value).filter test
  distinct_write := schema.distinct_write
  canonical_of_read hread := schema.canonical_of_read (Option.filter_eq_some_iff.1 hread).1
  eq_of_canonical hread hread' := schema.eq_of_canonical (Option.filter_eq_some_iff.1 hread).1
    (Option.filter_eq_some_iff.1 hread').1
  read_printed hread := Option.filter_eq_some_iff.2
    ⟨schema.read_printed (Option.filter_eq_some_iff.1 hread).1,
      (Option.filter_eq_some_iff.1 hread).2⟩

/-- The schema of a type that is another one under other names. -/
def imap (schema : JsonSchema N α) (names : α ≃ β) : JsonSchema N β where
  write b := schema.write (names.symm b)
  read value := (schema.read value).map names
  distinct_write b := schema.distinct_write _
  canonical_of_read := by
    intro a b hread
    obtain ⟨inner, hinner, rfl⟩ := Option.map_eq_some_iff.1 hread
    rw [names.symm_apply_apply]
    exact schema.canonical_of_read hinner
  eq_of_canonical := by
    intro value other a b hread hread' heq
    obtain ⟨first, hfirst, rfl⟩ := Option.map_eq_some_iff.1 hread
    obtain ⟨second, hsecond, rfl⟩ := Option.map_eq_some_iff.1 hread'
    rw [names.symm_apply_apply, names.symm_apply_apply] at heq
    rw [schema.eq_of_canonical hfirst hsecond heq]
  read_printed := by
    intro a b hread
    obtain ⟨inner, hinner, rfl⟩ := Option.map_eq_some_iff.1 hread
    rw [schema.read_printed hinner]
    rfl

theorem canonical_of_mapM_read (schema : JsonSchema N α) {items others : List α}
    (hread : (items.map fun item => (schema.write item).printed).mapM schema.read = some others) :
    others.map (fun item => canonicalForm (schema.write item)) =
      items.map fun item => canonicalForm (schema.write item) := by
  induction items generalizing others with
  | nil =>
      cases hread
      rfl
  | cons item rest ih =>
      rw [List.map_cons, List.mapM_cons] at hread
      obtain ⟨first, hfirst, hread⟩ := Option.bind_eq_some_iff.1 hread
      obtain ⟨more, hmore, heq⟩ := Option.bind_eq_some_iff.1 hread
      cases heq
      rw [List.map_cons, List.map_cons, ih hmore, schema.canonical_of_read hfirst]

theorem eq_of_mapM_read (schema : JsonSchema N α) {values others : List (Json N)}
    {first second : List α} (hread : values.mapM schema.read = some first)
    (hread' : others.mapM schema.read = some second)
    (heq : first.map (fun item => canonicalForm (schema.write item)) =
      second.map fun item => canonicalForm (schema.write item)) : first = second := by
  induction values generalizing others first second with
  | nil =>
      cases hread
      exact (List.map_eq_nil_iff.1 heq.symm).symm
  | cons value values ih =>
      rw [List.mapM_cons] at hread
      obtain ⟨item, hitem, hread⟩ := Option.bind_eq_some_iff.1 hread
      obtain ⟨rest, hrest, hcons⟩ := Option.bind_eq_some_iff.1 hread
      cases hcons
      cases others with
      | nil =>
          cases hread'
          cases heq
      | cons other others =>
          rw [List.mapM_cons] at hread'
          obtain ⟨item', hitem', hread'⟩ := Option.bind_eq_some_iff.1 hread'
          obtain ⟨rest', hrest', hcons'⟩ := Option.bind_eq_some_iff.1 hread'
          cases hcons'
          obtain ⟨hfirst, hmore⟩ := List.cons.inj heq
          rw [schema.eq_of_canonical hitem hitem' hfirst, ih hrest hrest' hmore]

theorem mapM_read_printed (schema : JsonSchema N α) {items others : List α}
    (hread : (items.map schema.write).mapM schema.read = some others) :
    (items.map fun item => (schema.write item).printed).mapM schema.read = some others := by
  induction items generalizing others with
  | nil => exact hread
  | cons item rest ih =>
      rw [List.map_cons, List.mapM_cons] at hread
      obtain ⟨first, hfirst, hread⟩ := Option.bind_eq_some_iff.1 hread
      obtain ⟨more, hmore, heq⟩ := Option.bind_eq_some_iff.1 hread
      cases heq
      rw [List.map_cons, List.mapM_cons, schema.read_printed hfirst, ih hmore]
      rfl

def array (schema : JsonSchema N α) : JsonSchema N (List α) where
  write items := .array (items.map schema.write)
  read
    | .array values => values.mapM schema.read
    | _ => none
  distinct_write := by
    intro items
    rw [Json.distinct_array, List.forall_mem_map]
    exact fun item _ => schema.distinct_write item
  canonical_of_read := by
    intro items others hread
    rw [Json.printed_array, List.map_map] at hread
    rw [canonicalForm_array, canonicalForm_array, List.map_map, List.map_map]
    exact congrArg Json.array (schema.canonical_of_mapM_read hread)
  eq_of_canonical := by
    intro value other items others hread hread' heq
    rw [canonicalForm_array, canonicalForm_array, List.map_map, List.map_map] at heq
    cases value with
    | array values =>
        cases other with
        | array values' => exact schema.eq_of_mapM_read hread hread' (Json.array.inj heq)
        | _ => cases hread'
    | _ => cases hread
  read_printed := by
    intro items others hread
    rw [Json.printed_array, List.map_map]
    exact schema.mapM_read_printed hread

end JsonSchema

/-! ### Objects -/

namespace Shape

theorem lookup_write_eq_none (shape : Shape N keys α) {key : String} (hkey : key ∉ keys)
    (a : α) : (shape.write a).lookup key = none := by
  rw [List.lookup_eq_none_iff]
  intro field hmem
  rw [bne_iff_ne]
  rintro rfl
  exact hkey ((shape.keys_write a).subset (List.mem_map_of_mem hmem))

/-- One field that every object has. -/
def field (key : String) (schema : JsonSchema N α) (hown : key ≠ prototypeKey := by decide) :
    Shape N [key] α where
  write a := [(key, schema.write a)]
  read fields := (fields.lookup key).bind schema.read
  nodup_keys := List.nodup_singleton key
  own_keys hmem := hown (List.mem_singleton.1 hmem).symm
  keys_write _ := List.Sublist.refl _
  distinct_write := by
    intro a entry hmem
    rw [List.mem_singleton.1 hmem]
    exact schema.distinct_write a
  read_congr hsame := by rw [hsame key (List.mem_singleton_self key)]
  canonical_of_read := by
    intro a b hread name
    rw [lookup_map, List.lookup_cons_self] at hread
    have hvalue := schema.canonical_of_read hread
    rw [List.lookup_cons, List.lookup_cons]
    cases name == key
    · rfl
    · exact congrArg some hvalue
  eq_of_canonical := by
    intro fields others a b hread hread' hsame
    obtain ⟨value, -, hvalue⟩ := Option.bind_eq_some_iff.1 hread
    obtain ⟨other, -, hother⟩ := Option.bind_eq_some_iff.1 hread'
    have hform := hsame key (List.mem_singleton_self key)
    rw [List.lookup_cons_self, List.lookup_cons_self] at hform
    exact schema.eq_of_canonical hvalue hother (Option.some_inj.1 hform)
  read_printed := by
    intro a b hread
    rw [List.lookup_cons_self] at hread
    rw [lookup_map, List.lookup_cons_self]
    exact schema.read_printed hread

/-- One field that an object may have. -/
def optional (key : String) (schema : JsonSchema N α)
    (hown : key ≠ prototypeKey := by decide) : Shape N [key] (Option α) where
  write a := a.toList.map fun value => (key, schema.write value)
  read fields :=
    match fields.lookup key with
    | none => some none
    | some value => (schema.read value).map some
  nodup_keys := List.nodup_singleton key
  own_keys hmem := hown (List.mem_singleton.1 hmem).symm
  keys_write a := by
    cases a with
    | none => exact List.nil_sublist _
    | some value => exact List.Sublist.refl _
  distinct_write := by
    intro a entry hmem
    obtain ⟨value, -, rfl⟩ := List.mem_map.1 hmem
    exact schema.distinct_write value
  read_congr hsame := by rw [hsame key (List.mem_singleton_self key)]
  canonical_of_read := by
    intro a b hread name
    cases a with
    | none =>
        cases hread
        rfl
    | some value =>
        rw [lookup_map, Option.toList_some, List.map_singleton, List.lookup_cons_self] at hread
        obtain ⟨other, hother, rfl⟩ := Option.map_eq_some_iff.1 hread
        have hvalue := schema.canonical_of_read hother
        rw [Option.toList_some, Option.toList_some, List.map_singleton, List.map_singleton,
          List.lookup_cons, List.lookup_cons]
        cases name == key
        · rfl
        · exact congrArg some hvalue
  eq_of_canonical := by
    intro fields others a b hread hread' hsame
    have hform := hsame key (List.mem_singleton_self key)
    have hfound : ∀ {fields : List (String × Json N)} {inner : α},
        (match fields.lookup key with
          | none => some none
          | some value => (schema.read value).map some) = some (some inner) →
        ∃ value, schema.read value = some inner := by
      intro fields inner hinner
      split at hinner
      · cases hinner
      · obtain ⟨_, hvalue, heq⟩ := Option.map_eq_some_iff.1 hinner
        cases heq
        exact ⟨_, hvalue⟩
    cases a with
    | none =>
        cases b with
        | none => rfl
        | some other =>
            rw [Option.toList_some, List.map_singleton, List.lookup_cons_self] at hform
            cases hform
    | some value =>
        cases b with
        | none =>
            rw [Option.toList_some, List.map_singleton, List.lookup_cons_self] at hform
            cases hform
        | some other =>
            rw [Option.toList_some, List.map_singleton, List.lookup_cons_self, Option.toList_some,
              List.map_singleton, List.lookup_cons_self] at hform
            obtain ⟨_, hvalue⟩ := hfound hread
            obtain ⟨_, hother⟩ := hfound hread'
            rw [schema.eq_of_canonical hvalue hother (Option.some_inj.1 hform)]
  read_printed := by
    intro a b hread
    cases a with
    | none => exact hread
    | some value =>
        rw [Option.toList_some, List.map_singleton, List.lookup_cons_self] at hread
        rw [lookup_map, Option.toList_some, List.map_singleton, List.lookup_cons_self]
        obtain ⟨other, hother, rfl⟩ := Option.map_eq_some_iff.1 hread
        exact Option.map_eq_some_iff.2 ⟨other, schema.read_printed hother, rfl⟩

section Append

variable (first : Shape N keys α) (second : Shape N more β) {key : String}

theorem lookup_write_append_left (hother : key ∉ more) (pair : α × β) :
    (first.write pair.1 ++ second.write pair.2).lookup key = (first.write pair.1).lookup key := by
  rw [List.lookup_append, second.lookup_write_eq_none hother, Option.or_none]

theorem lookup_write_append_right (hother : key ∉ keys) (pair : α × β) :
    (first.write pair.1 ++ second.write pair.2).lookup key = (second.write pair.2).lookup key := by
  rw [List.lookup_append, first.lookup_write_eq_none hother, Option.none_or]

end Append

/-- The fields of two shapes without a key in common. -/
def append (first : Shape N keys α) (second : Shape N more β)
    (hdisjoint : ∀ key ∈ keys, key ∉ more := by decide) : Shape N (keys ++ more) (α × β) :=
  have hleft : ∀ (pair : α × β) {key : String}, key ∈ keys →
      (first.write pair.1 ++ second.write pair.2).lookup key = (first.write pair.1).lookup key :=
    fun pair key hkey => lookup_write_append_left first second (hdisjoint key hkey) pair
  have hright : ∀ (pair : α × β) {key : String}, key ∈ more →
      (first.write pair.1 ++ second.write pair.2).lookup key = (second.write pair.2).lookup key :=
    fun pair key hkey =>
      lookup_write_append_right first second (fun hmem => hdisjoint key hmem hkey) pair
  { write := fun pair => first.write pair.1 ++ second.write pair.2
    read := fun fields => (first.read fields).bind fun a => (second.read fields).map fun b => (a, b)
    nodup_keys := by
      apply List.nodup_append'.2
      exact ⟨first.nodup_keys, second.nodup_keys, fun key hkey => hdisjoint key hkey⟩
    own_keys := by
      rw [List.mem_append, not_or]
      exact ⟨first.own_keys, second.own_keys⟩
    keys_write := by
      intro pair
      rw [keysOf, List.map_append]
      exact (first.keys_write pair.1).append (second.keys_write pair.2)
    distinct_write := by
      intro pair
      rw [List.forall_mem_append]
      exact ⟨first.distinct_write pair.1, second.distinct_write pair.2⟩
    read_congr := by
      intro fields others hsame
      rw [first.read_congr fun key hkey => hsame key (List.mem_append_left _ hkey),
        second.read_congr fun key hkey => hsame key (List.mem_append_right _ hkey)]
    canonical_of_read := by
      intro pair other hread key
      obtain ⟨a, ha, hread⟩ := Option.bind_eq_some_iff.1 hread
      obtain ⟨b, hb, rfl⟩ := Option.map_eq_some_iff.1 hread
      have hfirst : first.read ((first.write pair.1).map (Prod.map id Json.printed)) = some a := by
        rw [← ha]
        apply first.read_congr
        intro key hkey
        rw [lookup_map, lookup_map, hleft pair hkey]
      have hsecond :
          second.read ((second.write pair.2).map (Prod.map id Json.printed)) = some b := by
        rw [← hb]
        apply second.read_congr
        intro key hkey
        rw [lookup_map, lookup_map, hright pair hkey]
      rw [List.lookup_append, List.lookup_append, Option.map_or, Option.map_or,
        first.canonical_of_read hfirst key, second.canonical_of_read hsecond key]
    eq_of_canonical := by
      intro fields others pair pair' hread hread' hsame
      obtain ⟨a, ha, hread⟩ := Option.bind_eq_some_iff.1 hread
      obtain ⟨b, hb, rfl⟩ := Option.map_eq_some_iff.1 hread
      obtain ⟨a', ha', hread'⟩ := Option.bind_eq_some_iff.1 hread'
      obtain ⟨b', hb', rfl⟩ := Option.map_eq_some_iff.1 hread'
      have hfirst : a = a' := by
        apply first.eq_of_canonical ha ha'
        intro key hkey
        have hform := hsame key (List.mem_append_left _ hkey)
        rw [hleft (a, b) hkey, hleft (a', b') hkey] at hform
        exact hform
      have hsecond : b = b' := by
        apply second.eq_of_canonical hb hb'
        intro key hkey
        have hform := hsame key (List.mem_append_right _ hkey)
        rw [hright (a, b) hkey, hright (a', b') hkey] at hform
        exact hform
      rw [hfirst, hsecond]
    read_printed := by
      intro pair other hread
      obtain ⟨a, ha, hread⟩ := Option.bind_eq_some_iff.1 hread
      obtain ⟨b, hb, rfl⟩ := Option.map_eq_some_iff.1 hread
      rw [first.read_congr fun key hkey => hleft pair hkey] at ha
      rw [second.read_congr fun key hkey => hright pair hkey] at hb
      have hfirst : first.read ((first.write pair.1 ++ second.write pair.2).map
          (Prod.map id Json.printed)) = some a := by
        rw [← first.read_printed ha]
        apply first.read_congr
        intro key hkey
        rw [lookup_map, lookup_map, hleft pair hkey]
      have hsecond : second.read ((first.write pair.1 ++ second.write pair.2).map
          (Prod.map id Json.printed)) = some b := by
        rw [← second.read_printed hb]
        apply second.read_congr
        intro key hkey
        rw [lookup_map, lookup_map, hright pair hkey]
      rw [hfirst, hsecond]
      rfl }

/-- The fields of a type that is another one under other names. -/
def imap (shape : Shape N keys α) (names : α ≃ β) : Shape N keys β where
  write b := shape.write (names.symm b)
  read fields := (shape.read fields).map names
  nodup_keys := shape.nodup_keys
  own_keys := shape.own_keys
  keys_write b := shape.keys_write _
  distinct_write b := shape.distinct_write _
  read_congr hsame := by rw [shape.read_congr hsame]
  canonical_of_read := by
    intro a b hread
    obtain ⟨inner, hinner, rfl⟩ := Option.map_eq_some_iff.1 hread
    rw [names.symm_apply_apply]
    exact shape.canonical_of_read hinner
  eq_of_canonical := by
    intro fields others a b hread hread' hsame
    obtain ⟨first, hfirst, rfl⟩ := Option.map_eq_some_iff.1 hread
    obtain ⟨second, hsecond, rfl⟩ := Option.map_eq_some_iff.1 hread'
    rw [names.symm_apply_apply, names.symm_apply_apply] at hsame
    rw [shape.eq_of_canonical hfirst hsecond hsame]
  read_printed := by
    intro a b hread
    obtain ⟨inner, hinner, rfl⟩ := Option.map_eq_some_iff.1 hread
    rw [shape.read_printed hinner]
    rfl

theorem nodup_write (shape : Shape N keys α) (a : α) : (keysOf (shape.write a)).Nodup :=
  shape.nodup_keys.sublist (shape.keys_write a)

/-- Values that show the same in each field are one canonical object. -/
theorem canonicalForm_write_eq_iff (shape : Shape N keys α) (a b : α) :
    canonicalForm (.object (shape.write a)) = canonicalForm (.object (shape.write b)) ↔
      ∀ key ∈ keys, ((shape.write a).lookup key).map canonicalForm =
        ((shape.write b).lookup key).map canonicalForm := by
  rw [canonicalForm_object_eq_iff_lookup (shape.nodup_write a) (shape.nodup_write b)]
  constructor
  · intro hsame key hkey
    apply hsame
    rintro rfl
    exact shape.own_keys hkey
  · intro hsame key _
    by_cases hkey : key ∈ keys
    · exact hsame key hkey
    · rw [shape.lookup_write_eq_none hkey, shape.lookup_write_eq_none hkey]

/-- What two shapes show together each shows alone. -/
theorem canonical_append_left {first : Shape N keys α} {second : Shape N more β}
    {hdisjoint : ∀ key ∈ keys, key ∉ more} {pair other : α × β}
    (heq : canonicalForm (.object ((first.append second hdisjoint).write pair)) =
      canonicalForm (.object ((first.append second hdisjoint).write other))) :
    canonicalForm (.object (first.write pair.1)) =
      canonicalForm (.object (first.write other.1)) := by
  rw [canonicalForm_write_eq_iff] at heq ⊢
  intro key hkey
  have hform := heq key (List.mem_append_left _ hkey)
  have hwrite : ∀ pair, (first.append second hdisjoint).write pair =
      first.write pair.1 ++ second.write pair.2 := fun _ => rfl
  rw [hwrite, hwrite, lookup_write_append_left first second (hdisjoint key hkey),
    lookup_write_append_left first second (hdisjoint key hkey)] at hform
  exact hform

theorem canonical_append_right {first : Shape N keys α} {second : Shape N more β}
    {hdisjoint : ∀ key ∈ keys, key ∉ more} {pair other : α × β}
    (heq : canonicalForm (.object ((first.append second hdisjoint).write pair)) =
      canonicalForm (.object ((first.append second hdisjoint).write other))) :
    canonicalForm (.object (second.write pair.2)) =
      canonicalForm (.object (second.write other.2)) := by
  rw [canonicalForm_write_eq_iff] at heq ⊢
  intro key hkey
  have hform := heq key (List.mem_append_right _ hkey)
  have hother : key ∉ keys := fun hmem => hdisjoint key hmem hkey
  have hwrite : ∀ pair, (first.append second hdisjoint).write pair =
      first.write pair.1 ++ second.write pair.2 := fun _ => rfl
  rw [hwrite, hwrite, lookup_write_append_right first second hother,
    lookup_write_append_right first second hother] at hform
  exact hform

end Shape

namespace JsonSchema

/-- An object with the fields of a shape and no others. -/
def strictObject (shape : Shape N keys α) : JsonSchema N α where
  write a := .object (shape.write a)
  read
    | .object fields =>
        if (keysOf fields).all keys.contains then shape.read fields else none
    | _ => none
  distinct_write a := Json.distinct_object.2 ⟨shape.nodup_write a, shape.distinct_write a⟩
  canonical_of_read := by
    intro a b hread
    rw [Json.printed_object] at hread
    obtain ⟨-, hshape⟩ := Option.ite_none_right_eq_some.1 hread
    apply (shape.canonicalForm_write_eq_iff b a).2
    exact fun key _ => shape.canonical_of_read hshape key
  eq_of_canonical := by
    intro value other a b hread hread' heq
    cases value with
    | object fields =>
        cases other with
        | object others =>
            obtain ⟨-, hshape⟩ := Option.ite_none_right_eq_some.1 hread
            obtain ⟨-, hshape'⟩ := Option.ite_none_right_eq_some.1 hread'
            apply shape.eq_of_canonical hshape hshape'
            exact (shape.canonicalForm_write_eq_iff a b).1 heq
        | _ => cases hread'
    | _ => cases hread
  read_printed := by
    intro a b hread
    obtain ⟨hkeys, hshape⟩ := Option.ite_none_right_eq_some.1 hread
    rw [Json.printed_object]
    apply Option.ite_none_right_eq_some.2
    rw [keysOf_map]
    exact ⟨hkeys, shape.read_printed hshape⟩

def literal (text : String) : JsonSchema N Unit where
  write _ := .string text
  read
    | .string other => if other = text then some () else none
    | _ => none
  distinct_write _ := rfl
  canonical_of_read _ := rfl
  eq_of_canonical _ _ _ := rfl
  read_printed hread := hread

/-- One branch of a union: the key with its literal, and the fields of the branch. -/
def branch (key text : String) (hown : key ≠ prototypeKey) (shape : Shape N keys α)
    (hkey : key ∉ keys) : Shape N (key :: keys) (Unit × α) :=
  (Shape.field key (literal text) hown).append shape fun _ hmem => List.mem_singleton.1 hmem ▸ hkey

/-- The literal under a key. -/
def tagOf (key : String) (value : Json N) : Option String := (value.get? key).bind Json.text?

theorem lookup_branch {key text : String} {hown : key ≠ prototypeKey} {shape : Shape N keys α}
    {hkey : key ∉ keys} (pair : Unit × α) :
    ((branch key text hown shape hkey).write pair).lookup key = some (.string text) :=
  List.lookup_cons_self

theorem tagOf_branch {key text : String} {hown : key ≠ prototypeKey} {shape : Shape N keys α}
    {hkey : key ∉ keys} (pair : Unit × α) :
    tagOf key (.object ((branch key text hown shape hkey).write pair)) = some text := by
  rw [tagOf, Json.get?, Json.fields, lookup_branch]
  rfl

theorem tagOf_printed_branch {key text : String} {hown : key ≠ prototypeKey} {shape : Shape N keys α}
    {hkey : key ∉ keys} (pair : Unit × α) :
    tagOf key (Json.printed (.object ((branch key text hown shape hkey).write pair))) =
      some text := by
  rw [Json.printed_object, tagOf, Json.get?, Json.fields, lookup_map, lookup_branch]
  rfl

section Union

variable {key first second : String} {left : JsonSchema N (Unit × α)}
  {right : JsonSchema N (Unit × β)} {value : Json N}

/-- The branch whose literal the value has. -/
def readBranches (key first second : String) (left : JsonSchema N (Unit × α))
    (right : JsonSchema N (Unit × β)) (value : Json N) : Option (α ⊕ β) :=
  if tagOf key value = some first then (left.read value).map fun pair => .inl pair.2
  else if tagOf key value = some second then (right.read value).map fun pair => .inr pair.2
  else none

theorem readBranches_first (htag : tagOf key value = some first) :
    readBranches key first second left right value =
      (left.read value).map fun pair => .inl pair.2 :=
  if_pos htag

theorem readBranches_second (hne : first ≠ second) (htag : tagOf key value = some second) :
    readBranches key first second left right value =
      (right.read value).map fun pair => .inr pair.2 := by
  rw [readBranches, htag, if_neg fun heq => hne (Option.some_inj.1 heq).symm, if_pos rfl]

theorem of_readBranches_inl {a : α}
    (hread : readBranches key first second left right value = some (.inl a)) :
    left.read value = some ((), a) := by
  rw [readBranches] at hread
  split_ifs at hread
  · obtain ⟨pair, hpair, heq⟩ := Option.map_eq_some_iff.1 hread
    cases heq
    exact hpair
  · obtain ⟨_, _, heq⟩ := Option.map_eq_some_iff.1 hread
    cases heq

theorem of_readBranches_inr {b : β}
    (hread : readBranches key first second left right value = some (.inr b)) :
    right.read value = some ((), b) := by
  rw [readBranches] at hread
  split_ifs at hread
  · obtain ⟨_, _, heq⟩ := Option.map_eq_some_iff.1 hread
    cases heq
  · obtain ⟨pair, hpair, heq⟩ := Option.map_eq_some_iff.1 hread
    cases heq
    exact hpair

end Union

/-- An object of one of two shapes, told apart by the literal under a key. -/
def discriminatedUnion (key first second : String) (left : Shape N keys α)
    (right : Shape N more β) (hown : key ≠ prototypeKey := by decide)
    (hne : first ≠ second := by decide) (hleft : key ∉ keys := by decide)
    (hright : key ∉ more := by decide) :
    JsonSchema N (α ⊕ β) :=
  let leftBranch := branch key first hown left hleft
  let rightBranch := branch key second hown right hright
  have hapart : ∀ a b, canonicalForm (.object (leftBranch.write a)) ≠
      canonicalForm (.object (rightBranch.write b)) := by
    intro a b heq
    have hform := (canonicalForm_object_eq_iff_lookup (leftBranch.nodup_write a)
      (rightBranch.nodup_write b)).1 heq key hown
    rw [lookup_branch, lookup_branch] at hform
    exact hne (Json.string.inj (Option.some_inj.1 hform))
  { write := fun value =>
      match value with
      | .inl a => .object (leftBranch.write ((), a))
      | .inr b => .object (rightBranch.write ((), b))
    read := readBranches key first second (strictObject leftBranch) (strictObject rightBranch)
    distinct_write := by
      intro value
      cases value with
      | inl a => exact (strictObject leftBranch).distinct_write ((), a)
      | inr b => exact (strictObject rightBranch).distinct_write ((), b)
    canonical_of_read := by
      intro value other hread
      cases value with
      | inl a =>
          rw [readBranches_first (tagOf_printed_branch _)] at hread
          obtain ⟨pair, hpair, rfl⟩ := Option.map_eq_some_iff.1 hread
          exact (strictObject leftBranch).canonical_of_read hpair
      | inr b =>
          rw [readBranches_second hne (tagOf_printed_branch _)] at hread
          obtain ⟨pair, hpair, rfl⟩ := Option.map_eq_some_iff.1 hread
          exact (strictObject rightBranch).canonical_of_read hpair
    eq_of_canonical := by
      intro _ _ a b hread hread' heq
      cases a with
      | inl a =>
          cases b with
          | inl b =>
              have hpair := (strictObject leftBranch).eq_of_canonical (of_readBranches_inl hread)
                (of_readBranches_inl hread') heq
              rw [(Prod.mk.inj hpair).2]
          | inr b => exact absurd heq (hapart _ _)
      | inr a =>
          cases b with
          | inl b => exact absurd heq.symm (hapart _ _)
          | inr b =>
              have hpair := (strictObject rightBranch).eq_of_canonical (of_readBranches_inr hread)
                (of_readBranches_inr hread') heq
              rw [(Prod.mk.inj hpair).2]
    read_printed := by
      intro value other hread
      cases value with
      | inl a =>
          rw [readBranches_first (tagOf_branch _)] at hread
          obtain ⟨pair, hpair, rfl⟩ := Option.map_eq_some_iff.1 hread
          rw [readBranches_first (tagOf_printed_branch _)]
          exact Option.map_eq_some_iff.2 ⟨pair, (strictObject leftBranch).read_printed hpair, rfl⟩
      | inr b =>
          rw [readBranches_second hne (tagOf_branch _)] at hread
          obtain ⟨pair, hpair, rfl⟩ := Option.map_eq_some_iff.1 hread
          rw [readBranches_second hne (tagOf_printed_branch _)]
          exact Option.map_eq_some_iff.2
            ⟨pair, (strictObject rightBranch).read_printed hpair, rfl⟩ }

end JsonSchema

/-! ### Records -/

/-- An object of texts under any keys, in the order of its keys. -/
structure StringRecord where
  entries : List (String × String)
  ordered : entries.Pairwise fieldLE
  nodup : (keysOf entries).Nodup

namespace StringRecord

theorem entries_injective {first second : StringRecord} (heq : first.entries = second.entries) :
    first = second := by
  cases first
  cases second
  cases heq
  rfl

theorem arrange_own (record : StringRecord) :
    arrange (ownFields record.entries) = ownFields record.entries :=
  arrange_eq_self (record.ordered.filter _)

def write (entries : List (String × String)) : Json N :=
  .object (entries.map (Prod.map id .string))

/-- The entries of an object whose fields are texts; the prototype is passed over. -/
def readEntries (fields : List (String × Json N)) : Option (List (String × String)) :=
  (arrange (ownFields fields)).mapM fun field => field.2.text?.map fun text => (field.1, text)

omit [JsonNumber N] in
theorem mapM_read_write (entries : List (String × String)) :
    (entries.map (Prod.map id (Json.string (N := N)))).mapM
        (fun field => field.2.text?.map fun text => (field.1, text)) = some entries := by
  induction entries with
  | nil => rfl
  | cons entry rest ih =>
      rw [List.map_cons, List.mapM_cons, ih]
      rfl

omit [JsonNumber N] in
theorem keysOf_mapM_read {fields : List (String × Json N)} {entries : List (String × String)}
    (hread : fields.mapM (fun field => field.2.text?.map fun text => (field.1, text)) =
      some entries) : keysOf entries = keysOf fields := by
  induction fields generalizing entries with
  | nil =>
      cases hread
      rfl
  | cons field rest ih =>
      rw [List.mapM_cons] at hread
      obtain ⟨first, hfirst, hread⟩ := Option.bind_eq_some_iff.1 hread
      obtain ⟨more, hmore, heq⟩ := Option.bind_eq_some_iff.1 hread
      cases heq
      obtain ⟨text, -, rfl⟩ := Option.map_eq_some_iff.1 hfirst
      rw [keysOf, keysOf, List.map_cons, List.map_cons]
      exact congrArg (field.1 :: ·) (ih hmore)

omit [JsonNumber N] in
/-- What is left of a written record. -/
theorem readEntries_write (record : StringRecord) :
    readEntries (record.entries.map (Prod.map id (Json.string (N := N)))) =
      some (ownFields record.entries) := by
  rw [readEntries, ownFields_map, arrange_map, arrange_own, mapM_read_write]

theorem printed_write (entries : List (String × String)) :
    (write entries : Json N).printed = write entries := by
  rw [write, Json.printed_object, List.map_map]
  rfl

theorem canonicalForm_write (record : StringRecord) :
    canonicalForm (write record.entries : Json N) = write (ownFields record.entries) := by
  rw [write, canonicalForm_object, ownFields_map, arrange_map,
    arrange_own, List.map_map]
  rfl

omit [JsonNumber N] in
theorem write_injective {entries others : List (String × String)}
    (heq : (write entries : Json N) = write others) : entries = others := by
  have hentry : Function.Injective (Prod.map id (Json.string (N := N)) : String × String → _) :=
    Function.injective_id.prodMap fun _ _ heq => Json.string.inj heq
  exact hentry.list_map (Json.object.inj heq)

end StringRecord

namespace JsonSchema

/-- Any keys with a text each. -/
def record : JsonSchema N StringRecord where
  write record := StringRecord.write record.entries
  read
    | .object fields =>
        (StringRecord.readEntries fields).bind fun entries =>
          -- Both tests pass: the fields of an object have distinct keys.
          if hentries : entries.Pairwise fieldLE ∧ (keysOf entries).Nodup then
            some ⟨entries, hentries.1, hentries.2⟩
          else none
    | _ => none
  distinct_write := by
    intro record
    apply Json.distinct_object.2
    rw [keysOf_map, List.forall_mem_map]
    exact ⟨record.nodup, fun _ _ => rfl⟩
  canonical_of_read := by
    intro record other hread
    rw [StringRecord.printed_write] at hread
    obtain ⟨entries, hentries, hread⟩ := Option.bind_eq_some_iff.1 hread
    rw [StringRecord.readEntries_write, Option.some_inj] at hentries
    split_ifs at hread with hordered
    cases hread
    have hagain : ownFields entries = ownFields record.entries := by
      rw [← hentries, ownFields, ownFields, List.filter_filter]
      simp only [Bool.and_self]
    rw [StringRecord.canonicalForm_write, StringRecord.canonicalForm_write]
    exact congrArg StringRecord.write hagain
  eq_of_canonical := by
    intro value other a b hread hread' heq
    have hown : ∀ {value : Json N} {record : StringRecord},
        (match value with
          | .object fields =>
              (StringRecord.readEntries fields).bind fun entries =>
                if hentries : entries.Pairwise fieldLE ∧ (keysOf entries).Nodup then
                  some (⟨entries, hentries.1, hentries.2⟩ : StringRecord)
                else none
          | _ => none) = some record → ownFields record.entries = record.entries := by
      intro value record hread
      split at hread
      · obtain ⟨entries, hentries, hread⟩ := Option.bind_eq_some_iff.1 hread
        split_ifs at hread
        cases hread
        refine List.filter_eq_self.2 fun entry hmem => bne_iff_ne.2 ?_
        rintro heq
        have hkey : entry.1 ∈ keysOf entries := List.mem_map_of_mem hmem
        rw [StringRecord.keysOf_mapM_read hentries] at hkey
        obtain ⟨field, hfield, hsame⟩ := List.mem_map.1 hkey
        exact (mem_arrange_ownFields.1 hfield).2 (hsame.trans heq)
      · cases hread
    rw [StringRecord.canonicalForm_write, StringRecord.canonicalForm_write, hown hread,
      hown hread'] at heq
    exact StringRecord.entries_injective (StringRecord.write_injective heq)
  read_printed := by
    intro record other hread
    rw [StringRecord.printed_write]
    exact hread

end JsonSchema

end GovernedRuntime.Shared
