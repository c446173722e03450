/-
Drift between discovery results (`src/discovery/discovery-digest.ts`, `drift.ts`): one
digest over a result without its volatile fields, and one for each contributor to it.
-/
import GovernedRuntime.Audit.CanonicalEquality
import Mathlib.Data.List.Dedup

namespace GovernedRuntime.Discovery

open GovernedRuntime.Audit
open GovernedRuntime.Library

/-! ### Discovery results -/

inductive CollectorName
  | repoMetadata
  | stackDetection
  | topology
  | surfaceDetection
  | codeSurfaceAnalysis
  | domainSignals
deriving DecidableEq, Repr

def CollectorName.text : CollectorName → String
  | .repoMetadata => "repo-metadata"
  | .stackDetection => "stack-detection"
  | .topology => "topology"
  | .surfaceDetection => "surface-detection"
  | .codeSurfaceAnalysis => "code-surface-analysis"
  | .domainSignals => "domain-signals"

/-- The keys of `COLLECTOR_OUTPUTS`. -/
def collectorOutputs : List CollectorName :=
  [.repoMetadata, .stackDetection, .topology, .surfaceDetection, .codeSurfaceAnalysis,
    .domainSignals]

inductive CollectorStatus
  | complete
  | partly
  | failed
deriving DecidableEq, Repr

def CollectorStatus.text : CollectorStatus → String
  | .complete => "complete"
  | .partly => "partial"
  | .failed => "failed"

structure CollectorDiagnostic (N : Type) where
  name : CollectorName
  status : CollectorStatus
  durationMs : N
  errorCode : Option String
  timedOut : Bool
  degradedReason : Option String

variable {N : Type} [JsonNumber N]

/-- A result that the schema accepts: one diagnostic for every collector. -/
structure DiscoveryResult (N : Type) [JsonNumber N] where
  schemaVersion : String
  collectedAt : String
  diagnostics : List (CollectorDiagnostic N)
  repoMetadata : JsonValue N
  stack : JsonValue N
  topology : JsonValue N
  surfaces : JsonValue N
  codeSurfaces : JsonValue N
  domainSignals : JsonValue N
  complete : ∀ name, (diagnostics.map (·.name)).count name = 1

/-- `result[COLLECTOR_OUTPUTS[name]]`. -/
def DiscoveryResult.output (result : DiscoveryResult N) : CollectorName → JsonValue N
  | .repoMetadata => result.repoMetadata
  | .stackDetection => result.stack
  | .topology => result.topology
  | .surfaceDetection => result.surfaces
  | .codeSurfaceAnalysis => result.codeSurfaces
  | .domainSignals => result.domainSignals

/-! ### Digests -/

/-- A diagnostic without its duration. -/
def stableDiagnostic (diagnostic : CollectorDiagnostic N) : Json N :=
  .object ([("name", .string diagnostic.name.text), ("status", .string diagnostic.status.text)] ++
    diagnostic.errorCode.toList.map (fun errorCode => ("errorCode", .string errorCode)) ++
    [("timedOut", .bool diagnostic.timedOut)] ++
    diagnostic.degradedReason.toList.map fun reason => ("degradedReason", .string reason))

def stripVolatileFields (result : DiscoveryResult N) : Json N :=
  .object [("schemaVersion", .string result.schemaVersion),
    ("repoMetadata", result.repoMetadata.value), ("stack", result.stack.value),
    ("topology", result.topology.value), ("surfaces", result.surfaces.value),
    ("codeSurfaces", result.codeSurfaces.value), ("domainSignals", result.domainSignals.value),
    ("diagnostics", .array (result.diagnostics.map stableDiagnostic))]

def computeStableDriftDigest (hashText : String → String) (result : DiscoveryResult N) : String :=
  hashText (canonicalJsonStringify (stripVolatileFields result))

/-- `diagnosticsByName.get(name)`: the last entry of a name counts. -/
def diagnosticNamed (diagnostics : List (CollectorDiagnostic N)) (name : CollectorName) :
    Option (CollectorDiagnostic N) :=
  diagnostics.reverse.find? (·.name == name)

def collectorNames (diagnostics : List (CollectorDiagnostic N)) : List CollectorName :=
  (diagnostics.map (·.name) ++ collectorOutputs).dedup.insertionSort
    fun a b => textLE a.text b.text

/-- What the digest of a collector is over. -/
def collectorContribution (result : DiscoveryResult N) (name : CollectorName) : Json N :=
  let diagnostic := diagnosticNamed result.diagnostics name
  .object [("status", diagnostic.elim .null fun found => .string found.status.text),
    ("diagnostic", diagnostic.elim .null stableDiagnostic),
    ("output", (result.output name).value)]

def metadataContribution (result : DiscoveryResult N) : Json N :=
  .object [("schemaVersion", .string result.schemaVersion),
    ("diagnosticOrder", .array (result.diagnostics.map fun diagnostic =>
      .string diagnostic.name.text))]

def computeStableDiscoveryContributorDigests (hashText : String → String)
    (result : DiscoveryResult N) : List (String × String) :=
  (collectorNames result.diagnostics).map (fun name =>
      (name.text, hashText (canonicalJsonStringify (collectorContribution result name)))) ++
    [("discovery-metadata", hashText (canonicalJsonStringify (metadataContribution result)))]

/-- The contributors that `checkDiscoveryDrift` names. -/
def changedContributors (hashText : String → String) (persisted fresh : DiscoveryResult N) :
    List String :=
  let persistedContributors := computeStableDiscoveryContributorDigests hashText persisted
  let freshContributors := computeStableDiscoveryContributorDigests hashText fresh
  let names := (persistedContributors.map (·.1) ++ freshContributors.map (·.1)).dedup
  sortTexts (names.filter fun name =>
    persistedContributors.lookup name != freshContributors.lookup name)

/-! ### One diagnostic a collector -/

section Diagnostics

variable (result : DiscoveryResult N)

theorem DiscoveryResult.nodup_names : (result.diagnostics.map (·.name)).Nodup :=
  List.nodup_iff_count_le_one.2 fun name => (result.complete name).le

theorem DiscoveryResult.exists_diagnostic (name : CollectorName) :
    ∃ diagnostic ∈ result.diagnostics, diagnostic.name = name := by
  have hcount := result.complete name
  have hmem : name ∈ result.diagnostics.map (·.name) := List.count_pos_iff.1 (by omega)
  exact List.mem_map.1 hmem

omit [JsonNumber N] in
theorem of_diagnosticNamed {diagnostics : List (CollectorDiagnostic N)} {name : CollectorName}
    {diagnostic : CollectorDiagnostic N}
    (hfound : diagnosticNamed diagnostics name = some diagnostic) :
    diagnostic ∈ diagnostics ∧ diagnostic.name = name := by
  rw [diagnosticNamed] at hfound
  have hname := List.find?_some hfound
  exact ⟨List.mem_reverse.1 (List.mem_of_find?_eq_some hfound), beq_iff_eq.1 hname⟩

theorem diagnosticNamed_eq_some {diagnostic : CollectorDiagnostic N}
    (hmem : diagnostic ∈ result.diagnostics) :
    diagnosticNamed result.diagnostics diagnostic.name = some diagnostic := by
  cases hfound : diagnosticNamed result.diagnostics diagnostic.name with
  | none =>
      have hnone := List.find?_eq_none.1 hfound diagnostic (List.mem_reverse.2 hmem)
      exact absurd (beq_self_eq_true diagnostic.name) hnone
  | some other =>
      obtain ⟨hother, hsame⟩ := of_diagnosticNamed hfound
      rw [List.inj_on_of_nodup_map result.nodup_names hother hmem hsame]

theorem mem_collectorNames (name : CollectorName) :
    name ∈ collectorNames result.diagnostics := by
  rw [collectorNames, List.mem_insertionSort, List.mem_dedup, List.mem_append]
  right
  cases name <;> decide

end Diagnostics

/-! ### What the digests show -/

variable {a b : DiscoveryResult N} {hashText : String → String}

omit [JsonNumber N] in
theorem distinct_stableDiagnostic (diagnostic : CollectorDiagnostic N) :
    (stableDiagnostic diagnostic).distinct = true := by
  rw [stableDiagnostic, Json.distinct_object]
  obtain ⟨name, status, durationMs, errorCode, timedOut, degradedReason⟩ := diagnostic
  constructor
  · cases errorCode <;> cases degradedReason <;> simp [keysOf]
  · have hstring : ∀ text, (Json.string text : Json N).distinct = true := fun _ => rfl
    have hbool : ∀ value, (Json.bool value : Json N).distinct = true := fun _ => rfl
    cases errorCode <;> cases degradedReason <;> simp [hstring, hbool]

/-- The name and the status of a diagnostic can be read from its form. -/
theorem fields_of_stableDiagnostic {first second : CollectorDiagnostic N}
    (heq : canonicalForm (stableDiagnostic first) = canonicalForm (stableDiagnostic second)) :
    first.name.text = second.name.text ∧ first.status.text = second.status.text := by
  have hfirst := distinct_stableDiagnostic first
  have hsecond := distinct_stableDiagnostic second
  rw [stableDiagnostic, stableDiagnostic] at heq
  rw [stableDiagnostic, Json.distinct_object] at hfirst hsecond
  rw [canonicalForm_object_eq_iff_lookup hfirst.1 hsecond.1] at heq
  have hname := heq "name" (by decide)
  have hstatus := heq "status" (by decide)
  simp [List.lookup_cons, canonicalForm_string] at hname hstatus
  exact ⟨hname, hstatus⟩

theorem CollectorName.text_injective {first second : CollectorName}
    (heq : first.text = second.text) : first = second := by
  cases first <;> cases second <;> first | rfl | exact absurd heq (by decide)

/-- What a result shows apart from its volatile fields. -/
structure SameContent (a b : DiscoveryResult N) : Prop where
  schemaVersion : a.schemaVersion = b.schemaVersion
  outputs : ∀ name, canonicalForm (a.output name).value = canonicalForm (b.output name).value
  diagnostics : a.diagnostics.map (fun diagnostic => canonicalForm (stableDiagnostic diagnostic)) =
    b.diagnostics.map fun diagnostic => canonicalForm (stableDiagnostic diagnostic)

theorem distinct_stripVolatileFields (result : DiscoveryResult N) :
    (stripVolatileFields result).distinct = true := by
  rw [stripVolatileFields, Json.distinct_object]
  constructor
  · simp [keysOf]
  · have hdiagnostics : (Json.array (result.diagnostics.map stableDiagnostic)).distinct = true := by
      rw [Json.distinct_array, List.forall_mem_map]
      exact fun diagnostic _ => distinct_stableDiagnostic diagnostic
    simp only [List.forall_mem_cons, List.not_mem_nil, false_implies, implies_true, and_true]
    exact ⟨rfl, result.repoMetadata.distinct, result.stack.distinct, result.topology.distinct,
      result.surfaces.distinct, result.codeSurfaces.distinct, result.domainSignals.distinct,
      hdiagnostics⟩

theorem driftDigest_eq_iff (hinjective : Function.Injective hashText) :
    computeStableDriftDigest hashText a = computeStableDriftDigest hashText b ↔
      SameContent a b := by
  rw [computeStableDriftDigest, computeStableDriftDigest, hinjective.eq_iff,
    canonicalJsonStringify_eq_iff (distinct_stripVolatileFields a) (distinct_stripVolatileFields b),
    stripVolatileFields, stripVolatileFields,
    canonicalForm_object_eq_iff (by rfl) (by simp [keysOf]) (by simp [keysOf, prototypeKey])]
  simp only [List.map_cons, List.map_nil, Prod.map, id, List.cons.injEq, Prod.mk.injEq, true_and,
    and_true, canonicalForm_array, canonicalForm_string, Json.string.injEq, Json.array.injEq,
    List.map_map]
  constructor
  · rintro ⟨hversion, hmetadata, hstack, htopology, hsurfaces, hcode, hdomain, hdiagnostics⟩
    refine ⟨hversion, ?_, hdiagnostics⟩
    intro name
    cases name <;> assumption
  · intro hsame
    exact ⟨hsame.schemaVersion, hsame.outputs .repoMetadata, hsame.outputs .stackDetection,
      hsame.outputs .topology, hsame.outputs .surfaceDetection, hsame.outputs .codeSurfaceAnalysis,
      hsame.outputs .domainSignals, hsame.diagnostics⟩

theorem distinct_collectorContribution (result : DiscoveryResult N) (name : CollectorName) :
    (collectorContribution result name).distinct = true := by
  have hdiagnostic : ∀ found : Option (CollectorDiagnostic N),
      (found.elim (.null : Json N) stableDiagnostic).distinct = true ∧
        (found.elim (.null : Json N) fun some => .string some.status.text).distinct = true := by
    intro found
    cases found with
    | none => exact ⟨rfl, rfl⟩
    | some diagnostic => exact ⟨distinct_stableDiagnostic diagnostic, rfl⟩
  rw [collectorContribution, Json.distinct_object]
  constructor
  · simp [keysOf]
  · simp only [List.forall_mem_cons, List.not_mem_nil, false_implies, implies_true, and_true]
    exact ⟨(hdiagnostic _).2, (hdiagnostic _).1, (result.output name).distinct⟩

theorem distinct_metadataContribution (result : DiscoveryResult N) :
    (metadataContribution result).distinct = true := by
  rw [metadataContribution, Json.distinct_object]
  constructor
  · simp [keysOf]
  · simp only [List.forall_mem_cons, List.not_mem_nil, false_implies, implies_true, and_true,
      Json.distinct_array, List.forall_mem_map]
    exact ⟨rfl, fun _ _ => rfl⟩

/-- The contribution of a collector shows its diagnostic and its output. -/
theorem collectorContribution_eq_iff {name : CollectorName} :
    canonicalForm (collectorContribution a name) = canonicalForm (collectorContribution b name) ↔
      (∀ first second, diagnosticNamed a.diagnostics name = some first →
          diagnosticNamed b.diagnostics name = some second →
            canonicalForm (stableDiagnostic first) = canonicalForm (stableDiagnostic second)) ∧
        canonicalForm (a.output name).value = canonicalForm (b.output name).value := by
  obtain ⟨first, hfirst, hname⟩ := a.exists_diagnostic name
  obtain ⟨second, hsecond, hname'⟩ := b.exists_diagnostic name
  have hfound := diagnosticNamed_eq_some a hfirst
  have hfound' := diagnosticNamed_eq_some b hsecond
  rw [hname] at hfound
  rw [hname'] at hfound'
  rw [collectorContribution, collectorContribution, hfound, hfound',
    canonicalForm_object_eq_iff (by rfl) (by simp [keysOf]) (by simp [keysOf, prototypeKey])]
  simp only [Option.elim_some, List.map_cons, List.map_nil, Prod.map, id, List.cons.injEq,
    Prod.mk.injEq, true_and, and_true, canonicalForm_string, Json.string.injEq, Option.some.injEq]
  constructor
  · rintro ⟨-, hdiagnostic, houtput⟩
    refine ⟨?_, houtput⟩
    rintro _ _ rfl rfl
    exact hdiagnostic
  · rintro ⟨hdiagnostic, houtput⟩
    have hsame := hdiagnostic first second rfl rfl
    exact ⟨(fields_of_stableDiagnostic hsame).2, hsame, houtput⟩

theorem metadataContribution_eq_iff :
    canonicalForm (metadataContribution a) = canonicalForm (metadataContribution b) ↔
      a.schemaVersion = b.schemaVersion ∧
        a.diagnostics.map (·.name) = b.diagnostics.map (·.name) := by
  rw [metadataContribution, metadataContribution,
    canonicalForm_object_eq_iff (by rfl) (by simp [keysOf]) (by simp [keysOf, prototypeKey])]
  simp only [List.map_cons, List.map_nil, Prod.map, id, List.cons.injEq, Prod.mk.injEq, true_and,
    and_true, canonicalForm_array, canonicalForm_string, Json.string.injEq, Json.array.injEq,
    List.map_map]
  apply and_congr_right
  intro _
  constructor
  · intro horder
    have htext : Function.Injective fun name : CollectorName => (Json.string name.text : Json N) :=
      fun _ _ heq => CollectorName.text_injective (Json.string.inj heq)
    apply htext.list_map
    rw [List.map_map, List.map_map]
    exact horder
  · intro horder
    have hform := congrArg (List.map fun name : CollectorName =>
      canonicalForm (Json.string name.text : Json N)) horder
    rw [List.map_map, List.map_map] at hform
    exact hform

theorem map_eq_of_map_eq {α β γ : Type} {f : α → β} {g : α → γ} {items others : List α}
    (hfiner : ∀ item other, f item = f other → g item = g other)
    (heq : items.map f = others.map f) : items.map g = others.map g := by
  induction items generalizing others with
  | nil =>
      rw [List.map_eq_nil_iff.1 heq.symm]
  | cons item rest ih =>
      cases others with
      | nil => cases heq
      | cons other others =>
          obtain ⟨hfirst, hrest⟩ := List.cons.inj heq
          rw [List.map_cons, List.map_cons, hfiner _ _ hfirst, ih hrest]

/-- All contributions together show what the whole result shows. -/
theorem sameContent_iff_contributions :
    SameContent a b ↔
      (∀ name, canonicalForm (collectorContribution a name) =
          canonicalForm (collectorContribution b name)) ∧
        canonicalForm (metadataContribution a) = canonicalForm (metadataContribution b) := by
  rw [metadataContribution_eq_iff]
  simp only [collectorContribution_eq_iff]
  have hname : ∀ first second : CollectorDiagnostic N,
      canonicalForm (stableDiagnostic first) = canonicalForm (stableDiagnostic second) →
        first.name = second.name := fun _ _ heq =>
    CollectorName.text_injective (fields_of_stableDiagnostic heq).1
  constructor
  · intro hsame
    refine ⟨fun name => ⟨?_, hsame.outputs name⟩, hsame.schemaVersion,
      map_eq_of_map_eq hname hsame.diagnostics⟩
    intro first second hfirst hsecond
    obtain ⟨hmem, hfirstName⟩ := of_diagnosticNamed hfirst
    obtain ⟨hmem', hsecondName⟩ := of_diagnosticNamed hsecond
    have hform := List.mem_map_of_mem (f := fun diagnostic =>
      canonicalForm (stableDiagnostic diagnostic)) hmem
    rw [hsame.diagnostics] at hform
    obtain ⟨other, hother, heq⟩ := List.mem_map.1 hform
    have hsameName := (hname other first heq).trans (hfirstName.trans hsecondName.symm)
    rw [← heq, List.inj_on_of_nodup_map b.nodup_names hother hmem' hsameName]
  · rintro ⟨hcontributions, hversion, hnames⟩
    refine ⟨hversion, fun name => (hcontributions name).2, ?_⟩
    have hlength : a.diagnostics.length = b.diagnostics.length := by
      simpa using congrArg List.length hnames
    apply List.ext_getElem
    · simpa using hlength
    · intro i hi hi'
      rw [List.getElem_map, List.getElem_map]
      rw [List.length_map] at hi hi'
      have hsameName : a.diagnostics[i].name = b.diagnostics[i].name := by
        have hat := List.getElem_of_eq hnames (by simpa using hi)
        simpa using hat
      apply (hcontributions a.diagnostics[i].name).1
      · exact diagnosticNamed_eq_some a (List.getElem_mem hi)
      · rw [hsameName]
        exact diagnosticNamed_eq_some b (List.getElem_mem hi')

/-! ### Attribution -/

theorem text_ne_metadata (name : CollectorName) : name.text ≠ "discovery-metadata" := by
  cases name <;> decide

theorem nodup_contributors (hashText : String → String) (result : DiscoveryResult N) :
    (keysOf (computeStableDiscoveryContributorDigests hashText result)).Nodup := by
  have hnames : (collectorNames result.diagnostics).Nodup :=
    (List.perm_insertionSort _ _).nodup_iff.2 (List.nodup_dedup _)
  rw [keysOf, computeStableDiscoveryContributorDigests, List.map_append, List.map_map]
  apply List.nodup_append'.2
  refine ⟨hnames.map fun _ _ heq => CollectorName.text_injective heq, List.nodup_singleton _, ?_⟩
  intro key hkey hmetadata
  obtain ⟨name, -, rfl⟩ := List.mem_map.1 hkey
  exact text_ne_metadata name (List.mem_singleton.1 hmetadata)

theorem lookup_collector (hashText : String → String) (result : DiscoveryResult N)
    (name : CollectorName) :
    (computeStableDiscoveryContributorDigests hashText result).lookup name.text =
      some (hashText (canonicalJsonStringify (collectorContribution result name))) := by
  apply (lookup_eq_some_iff_mem (nodup_contributors hashText result)).2
  apply List.mem_append_left
  exact List.mem_map.2 ⟨name, mem_collectorNames result name, rfl⟩

theorem lookup_metadata (hashText : String → String) (result : DiscoveryResult N) :
    (computeStableDiscoveryContributorDigests hashText result).lookup "discovery-metadata" =
      some (hashText (canonicalJsonStringify (metadataContribution result))) := by
  apply (lookup_eq_some_iff_mem (nodup_contributors hashText result)).2
  exact List.mem_append_right _ (List.mem_singleton_self _)

theorem lookup_other (hashText : String → String) (result : DiscoveryResult N) {key : String}
    (hcollector : ∀ name : CollectorName, key ≠ name.text) (hmetadata : key ≠ "discovery-metadata") :
    (computeStableDiscoveryContributorDigests hashText result).lookup key = none := by
  rw [List.lookup_eq_none_iff]
  intro entry hentry
  rw [computeStableDiscoveryContributorDigests, List.mem_append, List.mem_map,
    List.mem_singleton] at hentry
  rw [bne_iff_ne]
  rcases hentry with ⟨name, -, rfl⟩ | rfl
  · exact hcollector name
  · exact hmetadata

theorem contributors_eq_iff (hinjective : Function.Injective hashText) :
    (∀ key, (computeStableDiscoveryContributorDigests hashText a).lookup key =
        (computeStableDiscoveryContributorDigests hashText b).lookup key) ↔ SameContent a b := by
  rw [sameContent_iff_contributions]
  have hcollector : ∀ name,
      (computeStableDiscoveryContributorDigests hashText a).lookup name.text =
          (computeStableDiscoveryContributorDigests hashText b).lookup name.text ↔
        canonicalForm (collectorContribution a name) =
          canonicalForm (collectorContribution b name) := by
    intro name
    rw [lookup_collector, lookup_collector, Option.some_inj, hinjective.eq_iff,
      canonicalJsonStringify_eq_iff (distinct_collectorContribution a name)
        (distinct_collectorContribution b name)]
  have hmetadata :
      (computeStableDiscoveryContributorDigests hashText a).lookup "discovery-metadata" =
          (computeStableDiscoveryContributorDigests hashText b).lookup "discovery-metadata" ↔
        canonicalForm (metadataContribution a) = canonicalForm (metadataContribution b) := by
    rw [lookup_metadata, lookup_metadata, Option.some_inj, hinjective.eq_iff,
      canonicalJsonStringify_eq_iff (distinct_metadataContribution a)
        (distinct_metadataContribution b)]
  constructor
  · intro hsame
    exact ⟨fun name => (hcollector name).1 (hsame name.text), hmetadata.1 (hsame _)⟩
  · rintro ⟨hcollectors, hordered⟩ key
    by_cases hkey : key = "discovery-metadata"
    · rw [hkey]
      exact hmetadata.2 hordered
    · by_cases hnamed : ∃ name : CollectorName, key = name.text
      · obtain ⟨name, rfl⟩ := hnamed
        exact (hcollector name).2 (hcollectors name)
      · have hother : ∀ name : CollectorName, key ≠ name.text := fun name heq => hnamed ⟨name, heq⟩
        rw [lookup_other hashText a hother hkey, lookup_other hashText b hother hkey]

theorem mem_changedContributors {key : String} :
    key ∈ changedContributors hashText a b ↔
      (computeStableDiscoveryContributorDigests hashText a).lookup key ≠
        (computeStableDiscoveryContributorDigests hashText b).lookup key := by
  rw [changedContributors, mem_sortTexts, List.mem_filter, List.mem_dedup,
    List.mem_append, bne_iff_ne]
  apply and_iff_right_of_imp
  intro hdiffer
  by_contra hunknown
  rw [not_or] at hunknown
  have hnone : ∀ {digests : List (String × String)}, key ∉ digests.map (·.1) →
      digests.lookup key = none := by
    intro digests hkey
    rw [List.lookup_eq_none_iff]
    intro entry hentry
    rw [bne_iff_ne]
    rintro rfl
    exact hkey (List.mem_map_of_mem hentry)
  exact hdiffer ((hnone hunknown.1).trans (hnone hunknown.2).symm)

/-- A diagnostic of the same outcome that took another time. -/
def SameOutcome (first second : CollectorDiagnostic N) : Prop :=
  { first with durationMs := second.durationMs } = second

/-- Results that differ in their time and in the durations only. -/
structure SameButVolatile (a b : DiscoveryResult N) : Prop where
  schemaVersion : a.schemaVersion = b.schemaVersion
  outputs : ∀ name, a.output name = b.output name
  diagnostics : List.Forall₂ SameOutcome a.diagnostics b.diagnostics

omit [JsonNumber N] in
theorem map_stable_of_sameOutcome {items others : List (CollectorDiagnostic N)}
    (hsame : List.Forall₂ SameOutcome items others) :
    items.map stableDiagnostic = others.map stableDiagnostic := by
  induction hsame with
  | nil => rfl
  | @cons first second _ _ houtcome _ ih =>
      have hstable : stableDiagnostic first = stableDiagnostic second := by
        rw [← houtcome]
        rfl
      rw [List.map_cons, List.map_cons, hstable, ih]

/-- Drift is noticed exactly when a contributor changed, and then it is named; time alone is
no drift. -/
structure DriftAttributed (hashText : String → String) (a b : DiscoveryResult N) : Prop where
  attributed : computeStableDriftDigest hashText a ≠ computeStableDriftDigest hashText b ↔
    ∃ key, (computeStableDiscoveryContributorDigests hashText a).lookup key ≠
      (computeStableDiscoveryContributorDigests hashText b).lookup key
  named : computeStableDriftDigest hashText a ≠ computeStableDriftDigest hashText b →
    changedContributors hashText a b ≠ []
  volatile : SameButVolatile a b →
    computeStableDriftDigest hashText a = computeStableDriftDigest hashText b

theorem driftAttributed (hashText : String → String) (hinjective : Function.Injective hashText)
    (a b : DiscoveryResult N) : DriftAttributed hashText a b := by
  have hattributed : computeStableDriftDigest hashText a ≠ computeStableDriftDigest hashText b ↔
      ∃ key, (computeStableDiscoveryContributorDigests hashText a).lookup key ≠
        (computeStableDiscoveryContributorDigests hashText b).lookup key := by
    rw [ne_eq, driftDigest_eq_iff hinjective, ← contributors_eq_iff hinjective, not_forall]
  refine ⟨hattributed, ?_, ?_⟩
  · intro hdrift
    obtain ⟨key, hkey⟩ := hattributed.1 hdrift
    exact List.ne_nil_of_mem (mem_changedContributors.2 hkey)
  · intro hsame
    rw [driftDigest_eq_iff hinjective]
    refine ⟨hsame.schemaVersion, fun name => by rw [hsame.outputs name], ?_⟩
    have hstable := congrArg (List.map canonicalForm) (map_stable_of_sameOutcome hsame.diagnostics)
    rw [List.map_map, List.map_map] at hstable
    exact hstable

/-- What the collectors find in a repository with one module. -/
def sampleOutput : CollectorName → Json Nat
  | .repoMetadata => .object
      [("defaultBranch", .string "main"), ("headCommit", .string "abc123"),
        ("isDirty", .bool false), ("worktreePath", .string "/repo"), ("canonicalRemote", .null),
        ("fingerprint", .string "a1b2c3d4e5f6a1b2c3d4e5f6")]
  | .stackDetection => .object
      (["languages", "frameworks", "buildTools", "testFrameworks", "runtimes", "tools",
        "qualityTools", "databases"].map (·, .array []))
  | .topology => .object
      [("kind", .string "single-project"),
        ("modules", .array [.object [("path", .string "src/auth"), ("name", .string "auth"),
          ("manifestFile", .string "package.json")]]),
        ("entryPoints", .array []), ("rootConfigs", .array [.string "package.json"]),
        ("ignorePaths", .array [])]
  | .surfaceDetection => .object
      (["api", "persistence", "cicd", "security", "layers"].map (·, .array []))
  | .codeSurfaceAnalysis => .object
      (["endpoints", "authBoundaries", "dataAccess", "integrations"].map (·, .array []) ++
        [("status", .string "ok"),
          ("budget", .object [("scannedFiles", .number 5), ("scannedBytes", .number 1000),
            ("maxFiles", .number 100), ("maxBytesPerFile", .number 100000),
            ("maxTotalBytes", .number 1000000), ("timedOut", .bool false)])])
  | .domainSignals => .object
      [("keywords", .array [.object [("term", .string "login"), ("occurrences", .number 2),
        ("classification", .string "fact")]]), ("glossarySources", .array [])]

theorem sampleOutput_wellFormed (name : CollectorName) :
    (sampleOutput name).distinct = true ∧ (sampleOutput name).isPrintable = true := by
  cases name <;> decide +kernel

/-- The result of a run whose diagnostics came in this order. -/
def sampleResult (collectedAt : String) (names : List CollectorName)
    (hcomplete : ∀ name, names.count name = 1) : DiscoveryResult Nat :=
  let found (name : CollectorName) : JsonValue Nat :=
    ⟨sampleOutput name, (sampleOutput_wellFormed name).1, (sampleOutput_wellFormed name).2⟩
  { schemaVersion := "discovery.v2"
    collectedAt
    diagnostics := names.map fun name => ⟨name, .complete, 3, none, false, none⟩
    repoMetadata := found .repoMetadata
    stack := found .stackDetection
    topology := found .topology
    surfaces := found .surfaceDetection
    codeSurfaces := found .codeSurfaceAnalysis
    domainSignals := found .domainSignals
    complete := by simpa [Function.comp_def] using hcomplete }

/-- A hash that keeps the text, on two results that name their collectors in two orders. -/
theorem driftAttributed_reordered :
    let a := sampleResult "2026-01-01T00:00:00.000Z" collectorOutputs
      fun name => by cases name <;> decide
    let b := sampleResult "2026-01-02T00:00:00.000Z" collectorOutputs.reverse
      fun name => by cases name <;> decide
    DriftAttributed id a b ∧ "discovery-metadata" ∈ changedContributors id a b := by
  intro a b
  refine ⟨driftAttributed id Function.injective_id a b, mem_changedContributors.2 ?_⟩
  rw [lookup_metadata, lookup_metadata]
  intro hsame
  rw [Option.some_inj, Function.injective_id.eq_iff,
    canonicalJsonStringify_eq_iff (distinct_metadataContribution a)
      (distinct_metadataContribution b), metadataContribution_eq_iff] at hsame
  exact absurd hsame.2 (by decide)

end GovernedRuntime.Discovery
