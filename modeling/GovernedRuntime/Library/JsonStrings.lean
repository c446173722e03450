/-
Rewriting the strings of a JSON value, each by the key it stands under, and the
values that such a rewriting cannot tell apart.
-/
import GovernedRuntime.Library.Json

namespace GovernedRuntime.Library

namespace Json

variable {N : Type}

/-! ### Rewriting strings -/

mutual

/-- Every string rewritten by the key of the field it is the value of; a string
of an array has none. -/
def mapStrings (f : Option String → String → String) : Option String → Json N → Json N
  | key, .string text => .string (f key text)
  | _, .array items => .array (mapItems f items)
  | _, .object fields => .object (mapFields f fields)
  | _, value => value
termination_by structural _ value => value

def mapItems (f : Option String → String → String) : List (Json N) → List (Json N)
  | [] => []
  | item :: rest => item.mapStrings f none :: mapItems f rest
termination_by structural items => items

def mapFields (f : Option String → String → String) :
    List (String × Json N) → List (String × Json N)
  | [] => []
  | (key, value) :: rest => (key, value.mapStrings f (some key)) :: mapFields f rest
termination_by structural fields => fields

end

mutual

/-- How deep a value is nested, a leaf counting one. -/
def height : Json N → Nat
  | .array items => heightItems items + 1
  | .object fields => heightFields fields + 1
  | _ => 1
termination_by structural value => value

def heightItems : List (Json N) → Nat
  | [] => 0
  | item :: rest => max item.height (heightItems rest)
termination_by structural items => items

def heightFields : List (String × Json N) → Nat
  | [] => 0
  | (_, value) :: rest => max value.height (heightFields rest)
termination_by structural fields => fields

end

mutual

/-- The value without the fields under one key, at every depth. -/
def dropKey (key : String) : Json N → Json N
  | .array items => .array (dropKeyItems key items)
  | .object fields => .object (dropKeyFields key fields)
  | value => value
termination_by structural value => value

def dropKeyItems (key : String) : List (Json N) → List (Json N)
  | [] => []
  | item :: rest => item.dropKey key :: dropKeyItems key rest
termination_by structural items => items

def dropKeyFields (key : String) : List (String × Json N) → List (String × Json N)
  | [] => []
  | (name, value) :: rest =>
      if name = key then dropKeyFields key rest
      else (name, value.dropKey key) :: dropKeyFields key rest
termination_by structural fields => fields

end

mutual

/-- No object at any depth has a field under the key. -/
def avoids (key : String) : Json N → Bool
  | .array items => avoidsItems key items
  | .object fields => avoidsFields key fields
  | _ => true
termination_by structural value => value

def avoidsItems (key : String) : List (Json N) → Bool
  | [] => true
  | item :: rest => item.avoids key && avoidsItems key rest
termination_by structural items => items

def avoidsFields (key : String) : List (String × Json N) → Bool
  | [] => true
  | (name, value) :: rest => name != key && value.avoids key && avoidsFields key rest
termination_by structural fields => fields

end

mutual

theorem dropKey_of_avoids {key : String} : (value : Json N) → value.avoids key = true →
    value.dropKey key = value
  | .null, _ => rfl
  | .bool _, _ => rfl
  | .number _, _ => rfl
  | .string _, _ => rfl
  | .array items, havoids => congrArg Json.array (dropKeyItems_of_avoids items havoids)
  | .object fields, havoids => congrArg Json.object (dropKeyFields_of_avoids fields havoids)

theorem dropKeyItems_of_avoids {key : String} : (items : List (Json N)) →
    avoidsItems key items = true → dropKeyItems key items = items
  | [], _ => rfl
  | item :: rest, havoids => by
      rw [avoidsItems, Bool.and_eq_true] at havoids
      rw [dropKeyItems, dropKey_of_avoids item havoids.1, dropKeyItems_of_avoids rest havoids.2]

theorem dropKeyFields_of_avoids {key : String} : (fields : List (String × Json N)) →
    avoidsFields key fields = true → dropKeyFields key fields = fields
  | [], _ => rfl
  | (name, value) :: rest, havoids => by
      rw [avoidsFields, Bool.and_eq_true, Bool.and_eq_true, bne_iff_ne] at havoids
      rw [dropKeyFields, if_neg havoids.1.1, dropKey_of_avoids value havoids.1.2,
        dropKeyFields_of_avoids rest havoids.2]

end

theorem avoids_of_get? {key name : String} {value field : Json N}
    (havoids : value.avoids key = true) (hget : value.get? name = some field) :
    field.avoids key = true := by
  cases value with
  | object fields =>
      have hmem : (name, field) ∈ fields := mem_of_lookup hget
      replace havoids : avoidsFields key fields = true := havoids
      clear hget
      induction fields with
      | nil => cases hmem
      | cons first rest ih =>
          obtain ⟨_, value⟩ := first
          rw [avoidsFields, Bool.and_eq_true, Bool.and_eq_true] at havoids
          rcases List.mem_cons.1 hmem with heq | hrest
          · cases heq
            exact havoids.1.2
          · exact ih hrest havoids.2
  | _ => cases hget

/-! ### Values that differ in some strings only -/

mutual

/-- The same value, apart from strings whose key `hidden` marks. -/
inductive SameBut (hidden : Option String → Bool) : Option String → Json N → Json N → Prop
  | string {key : Option String} (text : String) : SameBut hidden key (.string text) (.string text)
  | hidden {key : Option String} (text text' : String) (hkey : hidden key = true) :
      SameBut hidden key (.string text) (.string text')
  | null {key : Option String} : SameBut hidden key .null .null
  | bool {key : Option String} (value : Bool) : SameBut hidden key (.bool value) (.bool value)
  | number {key : Option String} (value : N) : SameBut hidden key (.number value) (.number value)
  | array {key : Option String} {items items' : List (Json N)}
      (hitems : SameItems hidden items items') :
      SameBut hidden key (.array items) (.array items')
  | object {key : Option String} {fields fields' : List (String × Json N)}
      (hfields : SameFields hidden fields fields') :
      SameBut hidden key (.object fields) (.object fields')

inductive SameItems (hidden : Option String → Bool) : List (Json N) → List (Json N) → Prop
  | nil : SameItems hidden [] []
  | cons {item item' : Json N} {rest rest' : List (Json N)}
      (hitem : SameBut hidden none item item') (hrest : SameItems hidden rest rest') :
      SameItems hidden (item :: rest) (item' :: rest')

inductive SameFields (hidden : Option String → Bool) :
    List (String × Json N) → List (String × Json N) → Prop
  | nil : SameFields hidden [] []
  | cons {key : String} {value value' : Json N} {rest rest' : List (String × Json N)}
      (hvalue : SameBut hidden (some key) value value') (hrest : SameFields hidden rest rest') :
      SameFields hidden ((key, value) :: rest) ((key, value') :: rest')

end

/-- The same keys, lengths and leaves, whatever the strings are. -/
abbrev SameShape (a b : Json N) : Prop := SameBut (fun _ => true) none a b

/-- Where every string is hidden the key does not matter. -/
theorem SameBut.rekey {key key' : Option String} {a b : Json N}
    (hsame : SameBut (fun _ => true) key a b) : SameBut (fun _ => true) key' a b := by
  cases hsame with
  | string text => exact .string text
  | hidden text text' hkey => exact .hidden text text' hkey
  | null => exact .null
  | bool value => exact .bool value
  | number value => exact .number value
  | array hitems => exact .array hitems
  | object hfields => exact .object hfields

section Rewriting

variable {hidden : Option String → Bool} {f : Option String → String → String}

mutual

/-- Values that differ in strings only are nested equally deep. -/
theorem SameBut.height_eq : {key : Option String} → {a b : Json N} → SameBut hidden key a b →
    a.height = b.height
  | _, _, _, .string _ => rfl
  | _, _, _, .hidden _ _ _ => rfl
  | _, _, _, .null => rfl
  | _, _, _, .bool _ => rfl
  | _, _, _, .number _ => rfl
  | _, _, _, .array hitems => congrArg (· + 1) (SameItems.heightItems_eq hitems)
  | _, _, _, .object hfields => congrArg (· + 1) (SameFields.heightFields_eq hfields)

theorem SameItems.heightItems_eq : {items items' : List (Json N)} →
    SameItems hidden items items' → heightItems items = heightItems items'
  | _, _, .nil => rfl
  | _, _, .cons hitem hrest => by
      rw [heightItems, heightItems, SameBut.height_eq hitem, SameItems.heightItems_eq hrest]

theorem SameFields.heightFields_eq : {fields fields' : List (String × Json N)} →
    SameFields hidden fields fields' → heightFields fields = heightFields fields'
  | _, _, .nil => rfl
  | _, _, .cons hvalue hrest => by
      rw [heightFields, heightFields, SameBut.height_eq hvalue, SameFields.heightFields_eq hrest]

end

mutual

theorem SameBut.refl : {key : Option String} → (value : Json N) → SameBut hidden key value value
  | _, .null => .null
  | _, .bool value => .bool value
  | _, .number value => .number value
  | _, .string text => .string text
  | _, .array items => .array (SameItems.refl items)
  | _, .object fields => .object (SameFields.refl fields)

theorem SameItems.refl : (items : List (Json N)) → SameItems hidden items items
  | [] => .nil
  | item :: rest => .cons (SameBut.refl item) (SameItems.refl rest)

theorem SameFields.refl : (fields : List (String × Json N)) → SameFields hidden fields fields
  | [] => .nil
  | (_, value) :: rest => .cons (SameBut.refl value) (SameFields.refl rest)

end

mutual

theorem SameBut.trans : {key : Option String} → {a b c : Json N} → SameBut hidden key a b →
    SameBut hidden key b c → SameBut hidden key a c
  | _, _, _, _, .string _, hbc => hbc
  | _, _, _, _, .hidden text text' hkey, .string _ => .hidden text text' hkey
  | _, _, _, _, .hidden text _ hkey, .hidden _ text' _ => .hidden text text' hkey
  | _, _, _, _, .null, hbc => hbc
  | _, _, _, _, .bool _, hbc => hbc
  | _, _, _, _, .number _, hbc => hbc
  | _, _, _, _, .array hab, .array hbc => .array (SameItems.trans hab hbc)
  | _, _, _, _, .object hab, .object hbc => .object (SameFields.trans hab hbc)

theorem SameItems.trans : {items items' items'' : List (Json N)} →
    SameItems hidden items items' → SameItems hidden items' items'' →
    SameItems hidden items items''
  | _, _, _, .nil, .nil => .nil
  | _, _, _, .cons hitem hrest, .cons hitem' hrest' =>
      .cons (SameBut.trans hitem hitem') (SameItems.trans hrest hrest')

theorem SameFields.trans : {fields fields' fields'' : List (String × Json N)} →
    SameFields hidden fields fields' → SameFields hidden fields' fields'' →
    SameFields hidden fields fields''
  | _, _, _, .nil, .nil => .nil
  | _, _, _, .cons hvalue hrest, .cons hvalue' hrest' =>
      .cons (SameBut.trans hvalue hvalue') (SameFields.trans hrest hrest')

end

mutual

theorem SameBut.avoids_eq {name : String} : {key : Option String} → {a b : Json N} →
    SameBut hidden key a b → a.avoids name = b.avoids name
  | _, _, _, .string _ => rfl
  | _, _, _, .hidden _ _ _ => rfl
  | _, _, _, .null => rfl
  | _, _, _, .bool _ => rfl
  | _, _, _, .number _ => rfl
  | _, _, _, .array hitems => SameItems.avoidsItems_eq hitems
  | _, _, _, .object hfields => SameFields.avoidsFields_eq hfields

theorem SameItems.avoidsItems_eq {name : String} : {items items' : List (Json N)} →
    SameItems hidden items items' → avoidsItems name items = avoidsItems name items'
  | _, _, .nil => rfl
  | _, _, .cons hitem hrest => by
      rw [avoidsItems, avoidsItems, SameBut.avoids_eq hitem, SameItems.avoidsItems_eq hrest]

theorem SameFields.avoidsFields_eq {name : String} : {fields fields' : List (String × Json N)} →
    SameFields hidden fields fields' → avoidsFields name fields = avoidsFields name fields'
  | _, _, .nil => rfl
  | _, _, .cons hvalue hrest => by
      rw [avoidsFields, avoidsFields, SameBut.avoids_eq hvalue, SameFields.avoidsFields_eq hrest]

end

mutual

theorem SameBut.dropKey {name : String} : {key : Option String} → {a b : Json N} →
    SameBut hidden key a b → SameBut hidden key (a.dropKey name) (b.dropKey name)
  | _, _, _, .string text => .string text
  | _, _, _, .hidden text text' hkey => .hidden text text' hkey
  | _, _, _, .null => .null
  | _, _, _, .bool value => .bool value
  | _, _, _, .number value => .number value
  | _, _, _, .array hitems => .array (SameItems.dropKey hitems)
  | _, _, _, .object hfields => .object (SameFields.dropKey hfields)

theorem SameItems.dropKey {name : String} : {items items' : List (Json N)} →
    SameItems hidden items items' →
    SameItems hidden (dropKeyItems name items) (dropKeyItems name items')
  | _, _, .nil => .nil
  | _, _, .cons hitem hrest => .cons (SameBut.dropKey hitem) (SameItems.dropKey hrest)

theorem SameFields.dropKey {name : String} : {fields fields' : List (String × Json N)} →
    SameFields hidden fields fields' →
    SameFields hidden (dropKeyFields name fields) (dropKeyFields name fields')
  | _, _, .nil => .nil
  | _, _, @SameFields.cons _ _ key _ _ _ _ hvalue hrest => by
      rw [dropKeyFields, dropKeyFields]
      by_cases hkey : key = name
      · rw [if_pos hkey, if_pos hkey]
        exact SameFields.dropKey hrest
      · rw [if_neg hkey, if_neg hkey]
        exact .cons (SameBut.dropKey hvalue) (SameFields.dropKey hrest)

end

mutual

/-- A rewriting changes strings only. -/
theorem sameBut_mapStrings : {key : Option String} → (value : Json N) →
    SameBut (fun _ => true) key value (value.mapStrings f key)
  | _, .null => .null
  | _, .bool value => .bool value
  | _, .number value => .number value
  | key, .string text => .hidden text (f key text) rfl
  | _, .array items => .array (sameItems_mapItems items)
  | _, .object fields => .object (sameFields_mapFields fields)

theorem sameItems_mapItems : (items : List (Json N)) →
    SameItems (fun _ => true) items (mapItems f items)
  | [] => .nil
  | item :: rest => .cons (sameBut_mapStrings item) (sameItems_mapItems rest)

theorem sameFields_mapFields : (fields : List (String × Json N)) →
    SameFields (fun _ => true) fields (mapFields f fields)
  | [] => .nil
  | (_, value) :: rest => .cons (sameBut_mapStrings value) (sameFields_mapFields rest)

end

mutual

/-- A rewriting that looks at no hidden string has one result. -/
theorem SameBut.mapStrings_eq (hf : ∀ key text text', hidden key = true → f key text = f key text') :
    {key : Option String} → {a b : Json N} → SameBut hidden key a b →
    a.mapStrings f key = b.mapStrings f key
  | _, _, _, .string _ => rfl
  | _, _, _, .hidden text text' hkey => congrArg Json.string (hf _ text text' hkey)
  | _, _, _, .null => rfl
  | _, _, _, .bool _ => rfl
  | _, _, _, .number _ => rfl
  | _, _, _, .array hitems => congrArg Json.array (SameItems.mapItems_eq hf hitems)
  | _, _, _, .object hfields => congrArg Json.object (SameFields.mapFields_eq hf hfields)

theorem SameItems.mapItems_eq (hf : ∀ key text text', hidden key = true → f key text = f key text') :
    {items items' : List (Json N)} → SameItems hidden items items' →
    mapItems f items = mapItems f items'
  | _, _, .nil => rfl
  | _, _, .cons hitem hrest => by
      rw [mapItems, mapItems, SameBut.mapStrings_eq hf hitem, SameItems.mapItems_eq hf hrest]

theorem SameFields.mapFields_eq (hf : ∀ key text text', hidden key = true → f key text = f key text') :
    {fields fields' : List (String × Json N)} → SameFields hidden fields fields' →
    mapFields f fields = mapFields f fields'
  | _, _, .nil => rfl
  | _, _, .cons hvalue hrest => by
      rw [mapFields, mapFields, SameBut.mapStrings_eq hf hvalue, SameFields.mapFields_eq hf hrest]

end

end Rewriting

/-! ### Fields of such values -/

def updateFields (key : String) (f : Json N → Json N) (fields : List (String × Json N)) :
    List (String × Json N) :=
  fields.map fun field => if field.1 = key then (key, f field.2) else field

/-- The value with that of one key replaced. -/
def update (key : String) (f : Json N → Json N) : Json N → Json N
  | .object fields => .object (updateFields key f fields)
  | value => value

/-- Fields under the same keys in the same order, with related values. -/
def AlikeFields (rel : String → Json N → Json N → Prop) :
    List (String × Json N) → List (String × Json N) → Prop :=
  List.Forall₂ fun field field' => field.1 = field'.1 ∧ rel field.1 field.2 field'.2

section Fields

variable {rel rel' : String → Json N → Json N → Prop} {fields fields' : List (String × Json N)}

theorem SameFields.alike {hidden : Option String → Bool} : {fields fields' : List (String × Json N)} →
    SameFields hidden fields fields' →
    AlikeFields (fun key => SameBut hidden (some key)) fields fields'
  | _, _, .nil => .nil
  | _, _, .cons hvalue hrest => .cons ⟨rfl, hvalue⟩ hrest.alike

theorem SameFields.of_alike {hidden : Option String → Bool}
    (halike : AlikeFields (fun key => SameBut hidden (some key)) fields fields') :
    SameFields hidden fields fields' := by
  induction halike with
  | nil => exact .nil
  | @cons field field' _ _ hfield _ ih =>
      obtain ⟨key, value⟩ := field
      obtain ⟨_, value'⟩ := field'
      obtain ⟨rfl, hvalue⟩ := hfield
      exact .cons hvalue ih

theorem AlikeFields.keysOf_eq (halike : AlikeFields rel fields fields') :
    keysOf fields = keysOf fields' := by
  induction halike with
  | nil => rfl
  | cons hfield _ ih => exact congrArg₂ List.cons hfield.1 ih

/-- Both lists have a field under the key, with related values, or neither has. -/
theorem AlikeFields.lookup (halike : AlikeFields rel fields fields') (key : String) :
    (fields.lookup key = none ∧ fields'.lookup key = none) ∨
      ∃ value value', fields.lookup key = some value ∧ fields'.lookup key = some value' ∧
        rel key value value' := by
  induction halike with
  | nil => exact .inl ⟨rfl, rfl⟩
  | @cons field field' _ _ hfield _ ih =>
      obtain ⟨name, value⟩ := field
      obtain ⟨_, value'⟩ := field'
      obtain ⟨rfl, hvalue⟩ := hfield
      rw [List.lookup_cons, List.lookup_cons]
      by_cases hkey : key = name
      · subst hkey
        rw [beq_self_eq_true]
        exact .inr ⟨value, value', rfl, rfl, hvalue⟩
      · rw [beq_false_of_ne hkey]
        exact ih

theorem updateFields_id (key : String) (fields : List (String × Json N)) :
    updateFields key id fields = fields := by
  refine (List.map_congr_left fun field _ => ?_).trans (List.map_id fields)
  split_ifs with hname
  · exact Prod.ext hname.symm rfl
  · rfl

theorem update_id (key : String) (value : Json N) : value.update key id = value := by
  cases value with
  | object fields => exact congrArg Json.object (updateFields_id key fields)
  | _ => rfl

theorem AlikeFields.update {key : String} {f f' : Json N → Json N}
    (halike : AlikeFields rel fields fields')
    (hkey : ∀ a b, rel key a b → rel' key (f a) (f' b))
    (hother : ∀ name a b, name ≠ key → rel name a b → rel' name a b) :
    AlikeFields rel' (updateFields key f fields) (updateFields key f' fields') := by
  induction halike with
  | nil => exact .nil
  | @cons field field' _ _ hfield _ ih =>
      obtain ⟨name, value⟩ := field
      obtain ⟨_, value'⟩ := field'
      obtain ⟨rfl, hvalue⟩ := hfield
      refine .cons ?_ ih
      by_cases hname : name = key
      · subst hname
        simp only [if_true]
        exact ⟨trivial, hkey _ _ hvalue⟩
      · simp only [if_neg hname]
        exact ⟨trivial, hother _ _ _ hname hvalue⟩

/-- The related values are those the keys are bound to. -/
theorem AlikeFields.of_lookup (halike : AlikeFields rel fields fields')
    (hnodup : (keysOf fields).Nodup)
    (himp : ∀ key a b, fields.lookup key = some a → fields'.lookup key = some b →
      rel key a b → rel' key a b) :
    AlikeFields rel' fields fields' := by
  have hbound : ∀ {l : List (String × Json N)}, (keysOf l).Nodup → ∀ field ∈ l,
      l.lookup field.1 = some field.2 := fun hl _ hmem => (lookup_eq_some_iff_mem hl).2 hmem
  have hleft := hbound hnodup
  have hright := hbound (halike.keysOf_eq ▸ hnodup)
  clear hbound hnodup
  -- The bindings stay those of the whole lists while the lists get shorter.
  generalize hlookup : (fun key => fields.lookup key) = bound at *
  generalize hlookup' : (fun key => fields'.lookup key) = bound' at *
  simp only [fun key => congrFun hlookup key] at hleft himp
  simp only [fun key => congrFun hlookup' key] at hright himp
  clear hlookup hlookup'
  induction halike with
  | nil => exact .nil
  | @cons field field' _ _ hfield _ ih =>
      rw [List.forall_mem_cons] at hleft hright
      refine .cons ⟨hfield.1, himp _ _ _ hleft.1 ?_ hfield.2⟩ (ih hleft.2 hright.2)
      rw [hfield.1]
      exact hright.1

theorem keysOf_updateFields (key : String) (f : Json N → Json N) (fields : List (String × Json N)) :
    keysOf (updateFields key f fields) = keysOf fields := by
  rw [updateFields, keysOf, List.map_map]
  refine List.map_congr_left fun field _ => ?_
  rw [Function.comp_apply]
  split_ifs with hname
  · exact hname.symm
  · rfl

theorem AlikeFields.eq (halike : AlikeFields (fun _ => Eq) fields fields') : fields = fields' := by
  induction halike with
  | nil => rfl
  | cons hfield _ ih => rw [Prod.ext hfield.1 hfield.2, ih]

theorem SameBut.get? {hidden : Option String → Bool} {key : Option String} {a b : Json N}
    (hsame : SameBut hidden key a b) (name : String) :
    (a.get? name = none ∧ b.get? name = none) ∨
      ∃ value value', a.get? name = some value ∧ b.get? name = some value' ∧
        SameBut hidden (some name) value value' := by
  cases hsame with
  | object hfields => exact hfields.alike.lookup name
  | _ => exact .inl ⟨rfl, rfl⟩

theorem SameBut.update {hidden : Option String → Bool} {key : Option String} {a b : Json N}
    {name : String} {f f' : Json N → Json N} (hsame : SameBut hidden key a b)
    (hf : ∀ x y, SameBut hidden (some name) x y → SameBut hidden (some name) (f x) (f' y)) :
    SameBut hidden key (a.update name f) (b.update name f') := by
  cases hsame with
  | object hfields =>
      exact .object (.of_alike (hfields.alike.update hf fun _ _ _ _ hrel => hrel))
  | string text => exact .string text
  | hidden text text' hkey => exact .hidden text text' hkey
  | null => exact .null
  | bool value => exact .bool value
  | number value => exact .number value
  | array hitems => exact .array hitems

/-- A value of the shape of a bound one in its place. -/
theorem SameBut.assign {hidden : Option String → Bool} {key : Option String} {name : String}
    {source result value value' : Json N} (hsame : SameBut hidden key source result)
    (hdistinct : source.distinct = true) (hget : source.get? name = some value)
    (hvalue : SameBut hidden (some name) value value') :
    SameBut hidden key source (result.update name fun _ => value') := by
  cases hsame with
  | @object _ fields _ hfields =>
      have hnodup := (distinct_object.1 hdistinct).1
      have hbound : AlikeFields (fun name' a b => fields.lookup name' = some a ∧
          SameBut hidden (some name') a b) fields _ :=
        hfields.alike.of_lookup hnodup fun _ _ _ hlookup _ hrel => ⟨hlookup, hrel⟩
      refine .object (.of_alike ?_)
      rw [← updateFields_id name fields]
      refine hbound.update (fun a b hrel => ?_) fun _ _ _ _ hrel => hrel.2
      cases Option.some.inj (hrel.1.symm.trans hget)
      exact hvalue
  | _ => cases hget

end Fields

end Json

end GovernedRuntime.Library
