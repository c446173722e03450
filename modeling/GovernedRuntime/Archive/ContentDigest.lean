/-
The archive content digest (`src/archive/content-digest.ts`,
`src/shared/hashing.ts`) and the check of it
(`src/adapters/workspace/archive-verify-integrity.ts`).
-/
import GovernedRuntime.Audit.CanonicalJson
import GovernedRuntime.Library.Framing
import Mathlib.Data.List.Perm.Basic

namespace GovernedRuntime.Archive

open GovernedRuntime.Audit GovernedRuntime.Library

variable {N : Type}

structure ArchiveContentDigestInput (N : Type) where
  includedFiles : List String
  fileDigests : List (String × String)
  policyMode : String
  auditChainHead : String
  auditEventCount : N
  schemaVersion : String
  layoutVersion : N
  sessionId : String
  fingerprint : String
  discoveryDigest : Option String

structure ArchiveContentDigestError where
  code : String
  message : String
deriving DecidableEq, Repr

def missingFileDigest (file : String) : ArchiveContentDigestError :=
  { code := "MISSING_FILE_DIGEST"
    message := "Missing file digest for included archive file '" ++ file ++ "'" }

namespace ArchiveContentDigestInput

variable (input : ArchiveContentDigestInput N)

/-- The digest of a file; an empty one counts as missing. -/
def fileDigest (file : String) : Except ArchiveContentDigestError String :=
  match input.fileDigests.lookup file with
  | none => .error (missingFileDigest file)
  | some digest => if digest = "" then .error (missingFileDigest file) else .ok digest

def headerFields : List (String × Json N) :=
  [("schemaVersion", .string input.schemaVersion),
    ("layoutVersion", .number input.layoutVersion),
    ("sessionId", .string input.sessionId),
    ("fingerprint", .string input.fingerprint),
    ("policyMode", .string input.policyMode),
    ("discoveryDigest", input.discoveryDigest.elim .null .string),
    ("auditChainHead", .string input.auditChainHead),
    ("auditEventCount", .number input.auditEventCount)]

def integrityHeader : Json N := .object input.headerFields

end ArchiveContentDigestInput

def hashParts (hashText : String → String) (parts : List String) : String :=
  hashText (framedParts parts)

def computeArchiveContentDigest [JsonNumber N] (hashText : String → String)
    (input : ArchiveContentDigestInput N) : Except ArchiveContentDigestError String := do
  let digests ← input.includedFiles.mapM input.fileDigest
  return hashParts hashText (canonicalJsonStringify input.integrityHeader :: sortTexts digests)

/-! ### What the digest binds -/

theorem mapM_eq_ok_iff {α β ε : Type} {f : α → Except ε β} {items : List α} {values : List β} :
    items.mapM f = .ok values ↔ List.Forall₂ (fun item value => f item = .ok value) items values := by
  induction items generalizing values with
  | nil => cases values <;> simp [pure, Except.pure]
  | cons item items ih =>
      rw [List.mapM_cons, List.forall₂_cons_left_iff]
      constructor
      · intro heq
        cases hitem : f item with
        | error error =>
            rw [hitem] at heq
            cases heq
        | ok value =>
            cases hitems : items.mapM f with
            | error error =>
                rw [hitem, hitems] at heq
                cases heq
            | ok rest =>
                rw [hitem, hitems] at heq
                cases heq
                exact ⟨value, rest, rfl, ih.1 hitems, rfl⟩
      · rintro ⟨value, rest, hitem, hrest, rfl⟩
        rw [hitem, ih.2 hrest]
        rfl

/-- Files in another order have their digests in another order. -/
theorem perm_of_mapM_fileDigest {a : ArchiveContentDigestInput N} {files others : List String} (hperm : files.Perm others)
    {digests : List String} (hdigests : others.mapM a.fileDigest = .ok digests) :
    ∃ reordered, files.mapM a.fileDigest = .ok reordered ∧ reordered.Perm digests := by
  obtain ⟨reordered, hfiles, hreordered⟩ :=
    List.perm_comp_forall₂ hperm (mapM_eq_ok_iff.1 hdigests)
  exact ⟨reordered, mapM_eq_ok_iff.2 hfiles, hreordered⟩

namespace ArchiveContentDigestInput

variable [JsonNumber N] {hashText : String → String} {a b : ArchiveContentDigestInput N}

/-- Equal headers, as far as printing tells numbers apart. -/
structure SameHeader (a b : ArchiveContentDigestInput N) : Prop where
  schemaVersion : a.schemaVersion = b.schemaVersion
  layoutVersion : JsonNumber.numeral a.layoutVersion = JsonNumber.numeral b.layoutVersion
  sessionId : a.sessionId = b.sessionId
  fingerprint : a.fingerprint = b.fingerprint
  policyMode : a.policyMode = b.policyMode
  discoveryDigest : a.discoveryDigest = b.discoveryDigest
  auditChainHead : a.auditChainHead = b.auditChainHead
  auditEventCount : JsonNumber.numeral a.auditEventCount = JsonNumber.numeral b.auditEventCount

def headerKeys : List String :=
  ["schemaVersion", "layoutVersion", "sessionId", "fingerprint", "policyMode",
    "discoveryDigest", "auditChainHead", "auditEventCount"]

theorem canonicalForm_discoveryDigest {digest other : Option String} :
    canonicalForm (digest.elim (Json.null (N := N)) .string) =
      canonicalForm (other.elim .null .string) ↔ digest = other := by
  cases digest with
  | none => cases other <;> simp [canonicalForm_null, canonicalForm_string]
  | some text => cases other <;> simp [canonicalForm_null, canonicalForm_string]

/-- The text of a header shows every field of it. -/
theorem integrityHeader_eq_iff :
    canonicalJsonStringify a.integrityHeader = canonicalJsonStringify b.integrityHeader ↔
      a.SameHeader b := by
  have hkeys : ∀ input : ArchiveContentDigestInput N, keysOf input.headerFields = headerKeys :=
    fun _ => rfl
  have hnodup : ∀ input : ArchiveContentDigestInput N, (keysOf input.headerFields).Nodup := by
    intro input
    rw [hkeys]
    decide
  have hdistinct : ∀ input : ArchiveContentDigestInput N,
      input.integrityHeader.distinct = true := by
    intro input
    refine Json.distinct_object.2 ⟨hnodup input, ?_⟩
    cases hdigest : input.discoveryDigest <;>
      simp only [headerFields, hdigest, List.forall_mem_cons, Option.elim] <;>
      exact ⟨rfl, rfl, rfl, rfl, rfl, rfl, rfl, rfl, fun _ hmem => absurd hmem List.not_mem_nil⟩
  have hown : prototypeKey ∉ keysOf a.headerFields := by
    rw [hkeys]
    decide
  rw [canonicalJsonStringify_eq_iff (hdistinct a) (hdistinct b), integrityHeader, integrityHeader,
    canonicalForm_object_eq_iff ((hkeys a).trans (hkeys b).symm) (hnodup a) hown]
  simp only [headerFields, List.map_cons, List.map_nil, Prod.map_apply, id, List.cons.injEq,
    Prod.mk.injEq, true_and, and_true, canonicalForm_string, Json.string.injEq,
    canonicalForm_number_eq_iff, canonicalForm_discoveryDigest]
  constructor
  · rintro ⟨hschema, hlayout, hsession, hfingerprint, hmode, hdiscovery, hhead, hcount⟩
    exact ⟨hschema, hlayout, hsession, hfingerprint, hmode, hdiscovery, hhead, hcount⟩
  · intro h
    exact ⟨h.schemaVersion, h.layoutVersion, h.sessionId, h.fingerprint, h.policyMode,
      h.discoveryDigest, h.auditChainHead, h.auditEventCount⟩

end ArchiveContentDigestInput

section Binding

variable [JsonNumber N] {hashText : String → String} {a b : ArchiveContentDigestInput N}

theorem computeArchiveContentDigest_of_digests {digests : List String}
    (hdigests : a.includedFiles.mapM a.fileDigest = .ok digests) :
    computeArchiveContentDigest hashText a =
      .ok (hashParts hashText
        (canonicalJsonStringify a.integrityHeader :: sortTexts digests)) := by
  rw [computeArchiveContentDigest, hdigests]
  rfl

theorem computeArchiveContentDigest_eq_iff (hinj : Function.Injective hashText)
    {digests others : List String} (ha : a.includedFiles.mapM a.fileDigest = .ok digests)
    (hb : b.includedFiles.mapM b.fileDigest = .ok others) :
    computeArchiveContentDigest hashText a = computeArchiveContentDigest hashText b ↔
      a.SameHeader b ∧ digests.Perm others := by
  rw [computeArchiveContentDigest_of_digests ha, computeArchiveContentDigest_of_digests hb,
    Except.ok.injEq, hashParts, hashParts, hinj.eq_iff, framedParts_injective.eq_iff,
    List.cons.injEq, ArchiveContentDigestInput.integrityHeader_eq_iff, sortTexts_eq_iff]

theorem computeArchiveContentDigest_perm {digests : List String}
    (ha : a.includedFiles.mapM a.fileDigest = .ok digests) {files : List String}
    (hfiles : files.Perm a.includedFiles) :
    computeArchiveContentDigest hashText { a with includedFiles := files } =
      computeArchiveContentDigest hashText a := by
  obtain ⟨reordered, hreordered, hperm⟩ := perm_of_mapM_fileDigest hfiles ha
  have hdigests : { a with includedFiles := files }.includedFiles.mapM
      { a with includedFiles := files }.fileDigest = .ok reordered := hreordered
  rw [computeArchiveContentDigest_of_digests hdigests,
    computeArchiveContentDigest_of_digests ha, sortTexts_eq_iff.2 hperm]
  rfl

/-- Digests agree exactly when the headers do and the included files have the same
digests equally often, in any order.  Which file has which digest is not bound. -/
theorem contentDigest_binds_inventory (hinj : Function.Injective hashText)
    {digests others : List String} (ha : a.includedFiles.mapM a.fileDigest = .ok digests)
    (hb : b.includedFiles.mapM b.fileDigest = .ok others) :
    (computeArchiveContentDigest hashText a = computeArchiveContentDigest hashText b ↔
      a.SameHeader b ∧ digests.Perm others) ∧
    ∀ files : List String, files.Perm a.includedFiles →
      computeArchiveContentDigest hashText { a with includedFiles := files } =
        computeArchiveContentDigest hashText a :=
  ⟨computeArchiveContentDigest_eq_iff hinj ha hb,
    fun _ hfiles => computeArchiveContentDigest_perm ha hfiles⟩

/-- An archive of the session state and another file. -/
def archiveOf (file : String) : ArchiveContentDigestInput Nat :=
  { includedFiles := ["session-state.json", file]
    fileDigests := [("session-state.json", "9f3a"), (file, "5e88")]
    policyMode := "team"
    auditChainHead := "genesis"
    auditEventCount := 1
    schemaVersion := "archive-manifest.v4"
    layoutVersion := 2
    sessionId := "session"
    fingerprint := "fingerprint"
    discoveryDigest := none }

/-- The same files the other way round. -/
def reversedArchive : ArchiveContentDigestInput Nat :=
  { archiveOf "a" with includedFiles := ["a", "session-state.json"] }

theorem contentDigest_binds_reversedArchive :
    (archiveOf "a").includedFiles.mapM (archiveOf "a").fileDigest = .ok ["9f3a", "5e88"] ∧
    ((computeArchiveContentDigest id (archiveOf "a") =
        computeArchiveContentDigest id reversedArchive ↔
      (archiveOf "a").SameHeader reversedArchive ∧ ["9f3a", "5e88"].Perm ["5e88", "9f3a"]) ∧
    ∀ files : List String, files.Perm (archiveOf "a").includedFiles →
      computeArchiveContentDigest id { archiveOf "a" with includedFiles := files } =
        computeArchiveContentDigest id (archiveOf "a")) :=
  ⟨rfl, contentDigest_binds_inventory Function.injective_id rfl rfl⟩

/-- A renamed file leaves the content digest as it was. -/
theorem renamed_file_keeps_content_digest :
    ¬ ∀ hashText : String → String, Function.Injective hashText →
      ∀ (a b : ArchiveContentDigestInput Nat) (digests others : List String),
        a.includedFiles.mapM a.fileDigest = .ok digests →
        b.includedFiles.mapM b.fileDigest = .ok others →
        computeArchiveContentDigest hashText a = computeArchiveContentDigest hashText b →
        ∀ file, file ∈ a.includedFiles ↔ file ∈ b.includedFiles := by
  intro hbinds
  have hsame := hbinds id Function.injective_id (archiveOf "a") (archiveOf "b")
    ["9f3a", "5e88"] ["9f3a", "5e88"] rfl rfl rfl "a"
  exact absurd (hsame.1 (by decide)) (by decide)

end Binding

/-! ### Manifests -/

structure ArchiveManifest (N : Type) extends ArchiveContentDigestInput N where
  contentDigest : String

structure ArchiveFinding where
  code : String
  severity : String
  message : String
deriving DecidableEq, Repr

end GovernedRuntime.Archive
