/-
What must be on disk for a state to be usable: the checks every mutating command
makes first (`src/adapters/workspace/evidence-artifact-ticket.ts`, `…-plan.ts`,
`evidence-artifacts.ts`, `src/integration/tools/helpers.ts`).
-/
import GovernedRuntime.Artifacts.Metadata

namespace GovernedRuntime.Artifacts

open GovernedRuntime.Library GovernedRuntime.State

/-- The session as it is on disk. -/
structure SessionDisk where
  artifacts : ArtifactFiles
  state : Option SessionState
deriving DecidableEq, Repr

def SessionDisk.empty : SessionDisk := ⟨[], none⟩

/-- `text.slice(0, 12)`. -/
def shortDigest (digest : String) : String :=
  String.ofList (digest.toList.take 12)

/-- Only the latest version has to carry the digest of the ticket. -/
def verifyTicketArtifacts (encoding : ArtifactEncoding) (files : ArtifactFiles)
    (state : SessionState) : Except EvidenceArtifactError Unit :=
  match state.ticket with
  | none => .ok ()
  | some ticket => do
      let entries ← readArtifactVersions files .ticket
      match entries.getLast? with
      | none =>
          .error ⟨.missing, "Ticket evidence artifacts are missing for current state"⟩
      | some latest => do
          entries.forM fun entry => assertMarkdownIntegrity encoding files entry .ticket
          if latest.contentHash != ticket.digest then
            .error ⟨.mismatch, "Ticket artifact hash mismatch: state=" ++
              shortDigest ticket.digest ++ " artifact=" ++ shortDigest latest.contentHash⟩
          else .ok ()

/-- Exactly one artifact carries the record digest of the revision, and it is an
artifact of this revision. -/
def assertRevisionCovered (entries : List EvidenceArtifactMeta)
    (revision : PlanEvidence) : Except EvidenceArtifactError Unit :=
  let version := toString revision.planVersion
  match entries.filter fun entry => entry.recordDigest == some revision.recordDigest with
  | [] => .error ⟨.missing, "Plan artifact missing for revision v" ++ version⟩
  | [artifact] =>
      if artifact.contentHash != revision.digest then
        .error ⟨.mismatch, "Plan artifact v" ++ version ++
          " contentHash does not match its revision"⟩
      else if artifact.createdAt != revision.createdAt then
        .error ⟨.mismatch, "Plan artifact v" ++ version ++
          " createdAt does not match its revision"⟩
      else .ok ()
  | _ :: _ :: _ =>
      .error ⟨.mismatch, "Plan revision v" ++ version ++
        " is materialized more than once"⟩

def assertPlanRevisionCoverage (entries : List EvidenceArtifactMeta)
    (chain : List PlanEvidence) : Except EvidenceArtifactError Unit :=
  if entries.isEmpty then .error ⟨.missing, "Plan artifact chain is empty"⟩
  else chain.forM (assertRevisionCovered entries)

def assertPlanEntry (encoding : ArtifactEncoding) (files : ArtifactFiles)
    (entry : EvidenceArtifactMeta) : Except EvidenceArtifactError Unit :=
  if entry.sourceStateHash == "" then
    .error ⟨.mismatch, "Plan artifact v" ++ toString entry.version ++
      " is missing sourceStateHash linkage"⟩
  else assertMarkdownIntegrity encoding files entry .plan

def verifyPlanArtifacts (encoding : ArtifactEncoding) (files : ArtifactFiles)
    (state : SessionState) : Except EvidenceArtifactError Unit :=
  match state.plan with
  | none => .ok ()
  | some plan => do
      let entries ← readArtifactVersions files .plan
      if entries.isEmpty then
        .error ⟨.missing, "Plan evidence artifact missing for current state"⟩
      else do
        assertPlanRevisionCoverage entries (orderedPlanRevisions plan)
        entries.forM (assertPlanEntry encoding files)

def verifyEvidenceArtifacts (encoding : ArtifactEncoding) (files : ArtifactFiles)
    (state : SessionState) : Except EvidenceArtifactError Unit := do
  verifyTicketArtifacts encoding files state
  verifyPlanArtifacts encoding files state

inductive MutationRefusal
  | noSession
  | artifact (error : EvidenceArtifactError)
deriving DecidableEq, Repr

/-- What every mutating command starts with. -/
def requireBoundStateForMutation (encoding : ArtifactEncoding) (disk : SessionDisk) :
    Except MutationRefusal SessionState :=
  match disk.state with
  | none => .error .noSession
  | some state =>
      match verifyEvidenceArtifacts encoding disk.artifacts state with
      | .error error => .error (.artifact error)
      | .ok _ => .ok state

end GovernedRuntime.Artifacts
