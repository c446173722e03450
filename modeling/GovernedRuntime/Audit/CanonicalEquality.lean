/-
When the canonical text of JSON values decides their equality: which fields it leaves
out, and what follows for values that differ in those fields alone.
-/
import GovernedRuntime.Audit.CanonicalJson

namespace GovernedRuntime.Audit

open GovernedRuntime.Library
open Json (SameValue)

variable {N : Type}

/-- A value that JSON text can express: its numbers are finite, and no object has two
fields under one key. -/
structure JsonValue (N : Type) [JsonNumber N] where
  value : Json N
  distinct : value.distinct = true
  finite : value.isPrintable = true

/-- The value without the fields under the prototype's key, at every depth. -/
def withoutPrototypeFields : Json N → Json N :=
  Json.fold { Json.Algebra.rebuild with object := fun fields => .object (ownFields fields) }

theorem withoutPrototypeFields_array (items : List (Json N)) :
    withoutPrototypeFields (.array items) = .array (items.map withoutPrototypeFields) :=
  Json.fold_array _ items

theorem withoutPrototypeFields_object (fields : List (String × Json N)) :
    withoutPrototypeFields (.object fields) =
      .object ((ownFields fields).map (Prod.map id withoutPrototypeFields)) := by
  rw [← ownFields_map]
  exact Json.fold_object _ fields

variable [JsonNumber N]

/-- What the canonical text shows is the value without those fields, keys in order. -/
theorem canonicalForm_eq_sortKeys {value : Json N} (hfinite : value.isPrintable = true) :
    canonicalForm value = (withoutPrototypeFields value).sortKeys := by
  induction value using Json.inductionOn with
  | null => rfl
  | bool value => rfl
  | number value => exact if_pos hfinite
  | string value => rfl
  | array items ih =>
      rw [Json.isPrintable_array] at hfinite
      have hitems : items.map canonicalForm =
          items.map (Json.sortKeys ∘ withoutPrototypeFields) :=
        List.map_congr_left fun item hmem => ih item hmem (hfinite item hmem)
      rw [canonicalForm_array, withoutPrototypeFields_array, Json.sortKeys_array, hitems,
        List.map_map]
  | object fields ih =>
      rw [Json.isPrintable_object] at hfinite
      have hfields : (arrange (ownFields fields)).map (Prod.map id canonicalForm) =
          (arrange (ownFields fields)).map
            (Prod.map id Json.sortKeys ∘ Prod.map id withoutPrototypeFields) := by
        refine List.map_congr_left fun field hmem => ?_
        have hfield := (mem_arrange_ownFields.1 hmem).1
        exact Prod.ext rfl (ih field hfield (hfinite field hfield))
      rw [canonicalForm_object, withoutPrototypeFields_object, Json.sortKeys_object, arrange_map,
        List.map_map, hfields]

/-- Equal canonical texts are equal values as far as the fields they show go. -/
theorem canonicalJsonStringify_eq_iff_visible (a b : JsonValue N) :
    canonicalJsonStringify a.value = canonicalJsonStringify b.value ↔
      SameValue (withoutPrototypeFields a.value) (withoutPrototypeFields b.value) := by
  rw [canonicalJsonStringify_eq_iff a.distinct b.distinct, canonicalForm_eq_sortKeys a.finite,
    canonicalForm_eq_sortKeys b.finite]
  rfl

/-- Values that are equal up to the order of their keys have one canonical text. -/
theorem canonicalJsonStringify_of_sameValue {a b : JsonValue N}
    (hsame : SameValue a.value b.value) :
    canonicalJsonStringify a.value = canonicalJsonStringify b.value := by
  rw [canonicalJsonStringify_eq_iff a.distinct b.distinct, ← canonicalForm_sortKeys a.distinct,
    ← canonicalForm_sortKeys b.distinct]
  exact congrArg canonicalForm hsame

/-- Canonical texts decide equality up to the order of keys exactly for values that do
not differ in fields under the prototype's key alone. -/
theorem stringify_decides_iff (a b : JsonValue N) :
    (canonicalJsonStringify a.value = canonicalJsonStringify b.value ↔
        SameValue a.value b.value) ↔
      (SameValue (withoutPrototypeFields a.value) (withoutPrototypeFields b.value) →
        SameValue a.value b.value) := by
  rw [← canonicalJsonStringify_eq_iff_visible]
  constructor
  · exact fun hdecides => hdecides.1
  · exact fun hvisible => ⟨hvisible, canonicalJsonStringify_of_sameValue⟩

/-- A field under the prototype's key leaves no trace. -/
theorem not_stringify_decides :
    ¬ ∀ a b : JsonValue Nat,
      canonicalJsonStringify a.value = canonicalJsonStringify b.value ↔
        SameValue a.value b.value := by
  intro hall
  have hsame := (hall ⟨.object [("__proto__", .number 1)], by decide, by decide⟩
    ⟨.object [], by decide, by decide⟩).1 (by decide)
  have hlookup := (Json.sameValue_object_iff (by decide) (by decide)).1 hsame "__proto__"
  simp at hlookup

end GovernedRuntime.Audit
