/-
The quarantine of reviewer releases: a session never has two live ones, and no attempt is
released twice.
-/
import GovernedRuntime.Review.LedgerReach

namespace GovernedRuntime.Review

open GovernedRuntime.State (Timestamp)
open Relation (ReflTransGen)

variable {env : LedgerEnvironment} {now : Timestamp} {s t : ReviewAssuranceState}
variable {canBind : ReviewAssuranceState → ReviewAttempt → Prop}

/-- A record of the same release that is live only if it was. -/
def SameRelease (x y : ReviewDispatchRecord) : Prop :=
  y.attemptId = x.attemptId ∧
    (y.dispatchStatus = .authorized → x.dispatchStatus = .authorized)

theorem SameRelease.refl (x : ReviewDispatchRecord) : SameRelease x x := ⟨rfl, id⟩

theorem abandonedRecord_same (hostCallId : String) (x : ReviewDispatchRecord) :
    SameRelease x (abandonedRecord hostCallId x) := by
  unfold abandonedRecord
  split
  · exact ⟨rfl, nofun⟩
  · exact .refl x

theorem supersededRecord_same (attemptId : String) (x : ReviewDispatchRecord) :
    SameRelease x (supersededRecord attemptId x) := by
  unfold supersededRecord
  split
  · exact ⟨rfl, nofun⟩
  · exact .refl x

theorem completedRecord_same (params : EvidenceParams) (x : ReviewDispatchRecord) :
    SameRelease x (completedRecord params x) := by
  unfold completedRecord
  split
  · exact ⟨rfl, nofun⟩
  · exact .refl x

/-- The releases of a ledger after a move. -/
inductive ReleasesMove (s t : ReviewAssuranceState) : Prop
  | updated (update : ReviewDispatchRecord → ReviewDispatchRecord)
      (hsame : ∀ x, SameRelease x (update x)) (heq : t.dispatches = s.dispatches.map update)
  | appended (input : AuthorizedReviewDispatchInput) (hreleasable : Releasable s input)
      (heq : t.dispatches = s.dispatches ++ [authorizedRecord input])

theorem ReleasesMove.kept (heq : t.dispatches = s.dispatches) : ReleasesMove s t :=
  .updated id .refl (heq.trans (List.map_id _).symm)

theorem concludeRelease_releases (hostCallId attemptId : String)
    (childSessionId : Option String) :
    ReleasesMove s (concludeRelease s hostCallId attemptId childSessionId now) :=
  .updated _ (abandonedRecord_same hostCallId)
    (congrArg ReviewAssuranceState.dispatches
      (concludeRelease_eq hostCallId attemptId childSessionId))

/-- Only a release that passes the quarantine adds a record. -/
theorem LedgerMove.releases (hmove : LedgerMove env canBind now s t) : ReleasesMove s t := by
  obtain heffect | hincident := hmove
  · cases heffect with
    | released input hreleasable _ => exact .appended input hreleasable rfl
    | evidenceBound params obligation attempt hrecordable hfresh _ hsettled =>
        obtain ⟨-, settle, consumer, -, -, rfl⟩ :=
          settleBoundEvidence_ok hrecordable.foundObligation hfresh hsettled
        exact .updated _ (completedRecord_same params) rfl
    | concluded record attempt childSessionId _ _ _ _ => exact concludeRelease_releases _ _ _
    | rearmed fresh spent obligation trigger _ _ =>
        exact .updated _ (supersededRecord_same spent.attemptId) rfl
    | _ => exact .kept rfl
  · cases hincident with
    | forced => exact .kept rfl
    | liveConcluded record _ _ =>
        exact .updated _ (abandonedRecord_same record.hostCallId)
          (concludeLiveRelease_dispatches record)
    | captureRejected lineage code _ =>
        exact .updated _ (abandonedRecord_same lineage.dispatch.hostCallId) rfl

/-- At most one release is live, and no two are of one attempt. -/
structure Quarantined (s : ReviewAssuranceState) : Prop where
  live : (s.dispatches.filter (·.dispatchStatus == .authorized)).length ≤ 1
  once : (s.dispatches.map (·.attemptId)).Nodup

theorem emptyReviewAssurance_quarantined : Quarantined emptyReviewAssurance :=
  ⟨Nat.zero_le _, List.nodup_nil⟩

theorem ReleasesMove.quarantined (hmove : ReleasesMove s t) (hs : Quarantined s) :
    Quarantined t := by
  cases hmove with
  | updated update hsame heq =>
      refine ⟨?_, ?_⟩
      · rw [heq, List.filter_map, List.length_map]
        refine Nat.le_trans ?_ hs.live
        refine (List.monotone_filter_right _ fun x => ?_).length_le
        simp only [Function.comp_apply, beq_iff_eq]
        exact (hsame x).2
      · rw [heq, map_key_congr fun x _ => (hsame x).1]
        exact hs.once
  | appended input hreleasable heq =>
      have hquiet : s.dispatches.filter (·.dispatchStatus == .authorized) = [] :=
        List.filter_eq_nil_iff.2 fun record hrecord => by
          simpa using hreleasable.quiet record hrecord
      refine ⟨?_, ?_⟩
      · rw [heq, List.filter_append, hquiet]
        exact List.length_filter_le _ _
      · rw [heq]
        exact nodup_map_append_singleton hs.once hreleasable.unreleased

/-- The attempts released so far. -/
def ReviewAssuranceState.released (s : ReviewAssuranceState) : List String :=
  s.dispatches.map (·.attemptId)

theorem ReleasesMove.released (hmove : ReleasesMove s t) : s.released <+: t.released := by
  unfold ReviewAssuranceState.released
  cases hmove with
  | updated update hsame heq =>
      have hids : t.dispatches.map (·.attemptId) = s.dispatches.map (·.attemptId) := by
        rw [heq, map_key_congr fun x _ => (hsame x).1]
      exact hids ▸ List.prefix_rfl
  | appended input _ heq =>
      rw [heq, List.map_append]
      exact List.prefix_append _ _

theorem released_of_moves (hmoves : ReflTransGen (TimedMove env canBind) s t) :
    s.released <+: t.released := by
  induction hmoves with
  | refl => exact List.prefix_rfl
  | tail _ hmove ih =>
      obtain ⟨now, hmove⟩ := hmove
      exact ih.trans hmove.releases.released

/-- In every ledger a session reaches, a new release is authorized only while no other one
is live, every release of unknown outcome has a successor, no lock is set and the attempt
was not released before; at most one release is live, and no attempt is ever released
twice. -/
theorem release_quarantine (hreaches : LedgerReaches env emptyReviewAssurance s) :
    (∀ input t, authorizeNativeReviewDispatch s env input = .ok t →
      (∀ record ∈ s.dispatches, record.dispatchStatus ≠ .authorized) ∧
        (∀ record ∈ s.dispatches, record.dispatchStatus = .outcomeUnknown →
          ∃ successor ∈ s.attempts, successor.origin.predecessor? = some record.attemptId) ∧
        s.capacityLock = none ∧
        (∀ record ∈ s.dispatches, record.attemptId ≠ input.attemptId) ∧
        t = appendReviewDispatch s (authorizedRecord input)) ∧
      (s.dispatches.filter (·.dispatchStatus == .authorized)).length ≤ 1 ∧
      ∀ t, LedgerReaches env s t → s.released <+: t.released ∧ t.released.Nodup := by
  have hquarantined : ∀ {u}, LedgerReaches env emptyReviewAssurance u → Quarantined u :=
    fun hu => hu.bound.keeps (fun _ hinv hmove => hmove.releases.quarantined hinv)
      emptyReviewAssurance_coherent emptyReviewAssurance_quarantined
  refine ⟨?_, (hquarantined hreaches).live, ?_⟩
  · intro input t hauthorized
    obtain ⟨hreleasable, ht⟩ := authorizeNativeReviewDispatch_ok hauthorized
    refine ⟨hreleasable.quiet, ?_, hreleasable.unlocked, hreleasable.unreleased, ht⟩
    intro record hrecord hunknown
    exact ReviewAssuranceState.superseded_iff.1 (hreleasable.succeeded record hrecord hunknown)
  · intro t hlater
    obtain ⟨hmoves, -⟩ := hlater.bound.moves hreaches.coherent
    exact ⟨released_of_moves hmoves, (hquarantined (hreaches.trans hlater)).once⟩

/-- A release of the sample plan whose outcome stays unknown, and its re-arm. -/
def rearmedRelease : List (Timestamp × LedgerAction) :=
  [("2026-01-01T00:00:00.000Z", .operation (.create samplePlan)),
    ("2026-01-01T00:00:01.000Z", .operation (.authorize (sampleRelease "attempt-1" "call-1"))),
    ("2026-01-01T00:00:02.000Z",
      .operation (.abandonAndRearm "call-1" none ⟨"attempt-2", "capability-2"⟩))]

theorem release_quarantine_rearmedRelease :
    ∃ s t, freshRun sampleEnvironment emptyReviewAssurance rearmedRelease = some s ∧
      authorizeNativeReviewDispatch s sampleEnvironment (sampleRelease "attempt-2" "call-2") =
        .ok t ∧
      (∃ record ∈ s.dispatches, record.dispatchStatus = .outcomeUnknown ∧
        ∃ successor ∈ s.attempts, successor.origin.predecessor? = some record.attemptId) ∧
      s.capacityLock = none ∧ t.released = ["attempt-1", "attempt-2"] ∧ t.released.Nodup := by
  have hrearmed : ∃ s, freshRun sampleEnvironment emptyReviewAssurance rearmedRelease = some s ∧
      (∃ record ∈ s.dispatches, record.dispatchStatus = .outcomeUnknown) ∧
      ∃ t, authorizeNativeReviewDispatch s sampleEnvironment
          (sampleRelease "attempt-2" "call-2") = .ok t ∧
        freshRun sampleEnvironment s [("2026-01-01T00:00:03.000Z",
          .operation (.authorize (sampleRelease "attempt-2" "call-2")))] = some t ∧
        t.released = ["attempt-1", "attempt-2"] :=
    ⟨_, rfl, by decide, _, rfl, rfl, rfl⟩
  obtain ⟨s, hrun, ⟨record, hrecord, hunknown⟩, t, hauthorized, hreleased, hlist⟩ := hrearmed
  obtain ⟨hquarantine, -, hlater⟩ := release_quarantine (.of_run hrun)
  obtain ⟨-, hsucceeded, hunlocked, -⟩ := hquarantine _ _ hauthorized
  exact ⟨s, t, hrun, hauthorized, ⟨record, hrecord, hunknown, hsucceeded record hrecord hunknown⟩,
    hunlocked, hlist, (hlater _ (.of_run hreleased)).2⟩

end GovernedRuntime.Review
