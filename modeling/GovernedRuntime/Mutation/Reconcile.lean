/-
Binding the episodes of a ledger to an implementation
(`src/state/evidence-mutation-episode.ts`): what reconciliation changes, and what the
count of unbound episodes says afterwards.
-/
import GovernedRuntime.Mutation.Ledger

namespace GovernedRuntime.Mutation

open GovernedRuntime.State

/-- What the schema boundary accepts. -/
structure ValidLedger (episodes : List MutationEpisode)
    (resolutions : List MutationEpisodeResolution) : Prop where
  shaped : ∀ episode ∈ episodes, mutationEpisodeIssues episode = []
  related : enforceMutationEpisodeInvariants episodes resolutions = none

/-- A completed episode with a known outcome that no implementation has bound yet. -/
def Eligible (episode : MutationEpisode) : Prop :=
  isObserved episode = true ∧ episode.implementationDigest = none

/-- A dispatch that is open, or whose outcome the host never reported. -/
def Unknown (episode : MutationEpisode) : Prop :=
  episode.status = .dispatchAuthorized ∨ episode.outcome = some .unknown

/-- Completed episodes without an observable outcome that nobody has resolved. -/
def unresolvedUnknownOutcomes (episodes : List MutationEpisode)
    (resolutions : List MutationEpisodeResolution) : List MutationEpisode :=
  episodes.filter fun episode =>
    episode.status == .completed && episode.outcome == some .unknown &&
      !isResolved resolutions episode

/-- What reconciliation makes of one episode. -/
structure ReconciledTo (implementationDigest : String) (episode reconciled : MutationEpisode) :
    Prop where
  binds : Eligible episode →
    reconciled.implementationDigest = some implementationDigest ∧
      reconciled.evidenceStatus = .eligible
  untouched : Unknown episode → reconciled = episode
  neverBound : Unknown episode → reconciled.implementationDigest = none
  keepsBinding : ∀ digest, episode.implementationDigest = some digest →
    reconciled.implementationDigest = some digest
  /-- Evidence of another implementation is outdated, and stays so. -/
  stale : ∀ digest, episode.implementationDigest = some digest →
    reconciled.evidenceStatus =
      if digest ≠ implementationDigest ∧ episode.evidenceStatus = .eligible then .stale
      else episode.evidenceStatus
  keepsFields : reconciled =
    { episode with
      implementationDigest := reconciled.implementationDigest
      evidenceStatus := reconciled.evidenceStatus }

section Schema

variable {episodes : List MutationEpisode} {resolutions : List MutationEpisodeResolution}

theorem nodup_of_duplicateEpisodeIssue {seen : List String}
    (hnone : duplicateEpisodeIssue seen episodes = none) :
    (episodes.map (·.hostCallId)).Nodup ∧ ∀ episode ∈ episodes, episode.hostCallId ∉ seen := by
  induction episodes generalizing seen with
  | nil => exact ⟨List.nodup_nil, nofun⟩
  | cons episode rest ih =>
      rw [duplicateEpisodeIssue] at hnone
      split_ifs at hnone with hseen
      obtain ⟨hrest, hunseen⟩ := ih hnone
      refine ⟨List.nodup_cons.2 ⟨?_, hrest⟩, List.forall_mem_cons.2 ⟨?_, ?_⟩⟩
      · intro hmem
        obtain ⟨other, hother, hsame⟩ := List.mem_map.1 hmem
        exact hunseen other hother (hsame ▸ List.mem_cons_self)
      · simpa using hseen
      · exact fun other hother hmem => hunseen other hother (List.mem_cons_of_mem _ hmem)

theorem resolvable_of_resolutionIssue {seen : List String}
    (hnone : resolutionIssue episodes seen resolutions = none) :
    ∀ resolution ∈ resolutions, ∃ episode,
      episodes.find? (·.hostCallId == resolution.hostCallId) = some episode ∧
        isResolvable episode = true := by
  induction resolutions generalizing seen with
  | nil => nofun
  | cons resolution rest ih =>
      rw [resolutionIssue] at hnone
      split_ifs at hnone with hresolvable hseen hlease
      refine List.forall_mem_cons.2 ⟨?_, ih hnone⟩
      rw [Bool.not_eq_true', Bool.not_eq_false, Option.any_eq_true] at hresolvable
      exact hresolvable

/-- An observed episode is never one that was resolved as lost. -/
theorem ValidLedger.not_resolved (hvalid : ValidLedger episodes resolutions)
    {episode : MutationEpisode} (hmem : episode ∈ episodes)
    (hobserved : isObserved episode = true) : isResolved resolutions episode = false := by
  obtain ⟨hduplicate, hresolution⟩ := Option.or_eq_none_iff.1 hvalid.related
  rw [Bool.eq_false_iff]
  intro hresolved
  obtain ⟨resolution, hresolution', hcall⟩ := List.any_eq_true.1 hresolved
  obtain ⟨found, hfound, hresolvable⟩ :=
    resolvable_of_resolutionIssue hresolution resolution hresolution'
  have hsame : found.hostCallId = episode.hostCallId := by
    have hfoundCall := List.find?_some hfound
    rw [beq_iff_eq] at hfoundCall hcall
    exact hfoundCall.trans hcall
  obtain rfl := List.inj_on_of_nodup_map (nodup_of_duplicateEpisodeIssue hduplicate).1
    (List.mem_of_find?_eq_some hfound) hmem hsame
  cases hstatus : found.status <;> simp_all [isObserved, isResolvable]

/-- What the schema says of an open dispatch: it carries no evidence. -/
theorem unbound_of_authorized {episode : MutationEpisode}
    (hshaped : mutationEpisodeIssues episode = [])
    (hauthorized : episode.status = .dispatchAuthorized) :
    episode.outcome = none ∧ episode.implementationDigest = none := by
  simp only [mutationEpisodeIssues, hauthorized] at hshaped
  split_ifs at hshaped with hfilled
  simp only [Bool.or_eq_true, not_or, Bool.not_eq_true, Option.isSome_eq_false_iff,
    Option.isNone_iff_eq_none] at hfilled
  exact ⟨hfilled.1.1.2, hfilled.1.2⟩

/-- What the schema says of an unknown outcome: nothing has bound it. -/
theorem unbound_of_unknown {episode : MutationEpisode}
    (hshaped : mutationEpisodeIssues episode = []) (hunknown : Unknown episode) :
    episode.implementationDigest = none := by
  cases hstatus : episode.status with
  | dispatchAuthorized => exact (unbound_of_authorized hshaped hstatus).2
  | completed =>
      have houtcome := hunknown.resolve_left (by simp [hstatus])
      by_contra hbound
      have hsome := Option.isSome_iff_ne_none.2 hbound
      simp [mutationEpisodeIssues, hstatus, houtcome, hsome] at hshaped

/-- An outcome is either unknown or observed. -/
theorem unknown_or_observed (episode : MutationEpisode) :
    Unknown episode ∨ isObserved episode = true := by
  rw [Unknown, isObserved]
  cases episode.status with
  | dispatchAuthorized => exact .inl (.inl rfl)
  | completed =>
      by_cases hunknown : episode.outcome = some .unknown
      · exact .inl (.inr hunknown)
      · exact .inr (by simpa using hunknown)

theorem reconcile_unknown {episode : MutationEpisode} (implementationDigest : String)
    (hshaped : mutationEpisodeIssues episode = []) (hunknown : Unknown episode) :
    reconcileMutationEpisode resolutions implementationDigest episode = episode := by
  have hunbound := unbound_of_unknown hshaped hunknown
  rw [reconcileMutationEpisode]
  by_cases hcompleted : episode.status = .completed
  · have houtcome := hunknown.resolve_left (by simp [hcompleted])
    simp [hcompleted, hunbound, houtcome]
  · rw [if_pos (by simpa using hcompleted)]

/-- An observed episode of a valid ledger: unbound it is bound, and otherwise only
its evidence can become stale. -/
theorem ValidLedger.reconcile_observed (hvalid : ValidLedger episodes resolutions)
    (implementationDigest : String) {episode : MutationEpisode} (hmem : episode ∈ episodes)
    (hobserved : isObserved episode = true) :
    reconcileMutationEpisode resolutions implementationDigest episode =
      match episode.implementationDigest with
      | none =>
          { episode with
            implementationDigest := some implementationDigest
            evidenceStatus := .eligible }
      | some digest =>
          if digest ≠ implementationDigest ∧ episode.evidenceStatus = .eligible then
            { episode with evidenceStatus := .stale }
          else episode := by
  have hunresolved := hvalid.not_resolved hmem hobserved
  rw [isObserved, Bool.and_eq_true, beq_iff_eq, bne_iff_ne] at hobserved
  rw [reconcileMutationEpisode, if_neg (by simp [hobserved.1]), if_neg (by simp [hunresolved])]
  cases hdigest : episode.implementationDigest with
  | none => simp [hobserved.2]
  | some digest => simp

theorem ValidLedger.reconciledTo (hvalid : ValidLedger episodes resolutions)
    (implementationDigest : String) {episode : MutationEpisode} (hmem : episode ∈ episodes) :
    ReconciledTo implementationDigest episode
      (reconcileMutationEpisode resolutions implementationDigest episode) := by
  have hshaped := hvalid.shaped episode hmem
  rcases unknown_or_observed episode with hunknown | hobserved
  · have hunbound := unbound_of_unknown hshaped hunknown
    rw [reconcile_unknown implementationDigest hshaped hunknown]
    refine ⟨fun heligible => ?_, fun _ => rfl, fun _ => hunbound, fun _ => id,
      fun digest hdigest => ?_, rfl⟩
    · rcases hunknown with hopen | hlost
      · simp [isObserved, hopen, Eligible] at heligible
      · simp [isObserved, hlost, Eligible] at heligible
    · simp [hunbound] at hdigest
  · have hknown : ¬ Unknown episode := by
      rw [isObserved, Bool.and_eq_true, beq_iff_eq, bne_iff_ne] at hobserved
      simp [Unknown, hobserved.1, hobserved.2]
    rw [hvalid.reconcile_observed implementationDigest hmem hobserved]
    cases hdigest : episode.implementationDigest with
    | none =>
        exact ⟨fun _ => ⟨rfl, rfl⟩, fun h => absurd h hknown, fun h => absurd h hknown,
          fun _ h => by simp [hdigest] at h, fun _ h => by simp [hdigest] at h, rfl⟩
    | some digest =>
        refine ⟨fun h => by simp [hdigest, Eligible] at h, fun h => absurd h hknown,
          fun h => absurd h hknown, fun other hother => ?_, fun other hother => ?_, ?_⟩
        · dsimp only
          split_ifs
          · exact hdigest.symm.trans hother
          · exact hother
        · obtain rfl : digest = other := by simpa [hdigest] using hother
          dsimp only
          split_ifs <;> rfl
        · dsimp only
          split_ifs <;> rfl

end Schema

/-! ### The ledger after reconciliation -/

section Reconciled

variable {episodes : List MutationEpisode} {resolutions : List MutationEpisodeResolution}

theorem duplicateEpisodeIssue_reconcile (implementationDigest : String) (seen : List String) :
    duplicateEpisodeIssue seen
      (reconcileMutationEpisodes episodes resolutions implementationDigest) =
      duplicateEpisodeIssue seen episodes := by
  induction episodes generalizing seen with
  | nil => rfl
  | cons episode rest ih =>
      have hcall : (reconcileMutationEpisode resolutions implementationDigest episode).hostCallId =
          episode.hostCallId :=
        congrArg Dispatch.hostCallId (dispatchOf_reconcile ..)
      rw [reconcileMutationEpisodes, List.map_cons, duplicateEpisodeIssue, hcall,
        duplicateEpisodeIssue]
      exact if_congr Iff.rfl rfl (ih _)

theorem isResolvable_reconcile (implementationDigest : String) (episode : MutationEpisode) :
    isResolvable (reconcileMutationEpisode resolutions implementationDigest episode) =
      isResolvable episode := by
  rw [reconcileMutationEpisode]
  split_ifs <;> rfl

/-- A reconciled ledger has the same episode for every host call, reconciled. -/
theorem find?_reconcile (implementationDigest : String) (hostCallId : String) :
    (reconcileMutationEpisodes episodes resolutions implementationDigest).find?
        (·.hostCallId == hostCallId) =
      (episodes.find? (·.hostCallId == hostCallId)).map
        (reconcileMutationEpisode resolutions implementationDigest) := by
  have hcall : ∀ episode,
      (reconcileMutationEpisode resolutions implementationDigest episode).hostCallId =
        episode.hostCallId :=
    fun episode => congrArg Dispatch.hostCallId (dispatchOf_reconcile ..)
  rw [reconcileMutationEpisodes, List.find?_map]
  congr 1
  exact congrArg (episodes.find? ·) (funext fun episode => by simp [hcall])

theorem resolutionIssue_reconcile (implementationDigest : String) (seen : List String)
    (others : List MutationEpisodeResolution) :
    resolutionIssue (reconcileMutationEpisodes episodes resolutions implementationDigest) seen
        others =
      resolutionIssue episodes seen others := by
  induction others generalizing seen with
  | nil => rfl
  | cons resolution rest ih =>
      have hlease : ∀ episode,
          (reconcileMutationEpisode resolutions implementationDigest episode).leaseGeneration =
            episode.leaseGeneration :=
        fun episode => congrArg Dispatch.leaseGeneration (dispatchOf_reconcile ..)
      rw [resolutionIssue, resolutionIssue, find?_reconcile, ih]
      cases episodes.find? (·.hostCallId == resolution.hostCallId) with
      | none => rfl
      | some episode => simp [isResolvable_reconcile, hlease]

theorem ValidLedger.reconcile (hvalid : ValidLedger episodes resolutions)
    (implementationDigest : String) :
    ValidLedger (reconcileMutationEpisodes episodes resolutions implementationDigest)
      resolutions where
  shaped := by
    intro episode hmem
    obtain ⟨original, horiginal, rfl⟩ := List.mem_map.1 hmem
    exact mutationEpisodeIssues_reconcile (hvalid.shaped original horiginal)
  related := by
    rw [enforceMutationEpisodeInvariants, duplicateEpisodeIssue_reconcile,
      resolutionIssue_reconcile]
    exact hvalid.related

/-- A reconciled episode has nothing left to bind and nothing left to outdate. -/
theorem ValidLedger.reconcile_reconciled (hvalid : ValidLedger episodes resolutions)
    (implementationDigest : String) {episode : MutationEpisode} (hmem : episode ∈ episodes) :
    reconcileMutationEpisode resolutions implementationDigest
        (reconcileMutationEpisode resolutions implementationDigest episode) =
      reconcileMutationEpisode resolutions implementationDigest episode := by
  have hreconciled := hvalid.reconciledTo implementationDigest hmem
  rcases unknown_or_observed episode with hunknown | hobserved
  · rw [hreconciled.untouched hunknown, hreconciled.untouched hunknown]
  · rw [(hvalid.reconcile implementationDigest).reconcile_observed implementationDigest
      (List.mem_map_of_mem hmem) ((isObserved_reconcile ..).trans hobserved)]
    cases hdigest : episode.implementationDigest with
    | none =>
        rw [(hreconciled.binds ⟨hobserved, hdigest⟩).1]
        exact if_neg fun hother => hother.1 rfl
    | some digest =>
        rw [hreconciled.keepsBinding digest hdigest]
        refine if_neg fun hother => ?_
        have hevidence := hreconciled.stale digest hdigest
        split_ifs at hevidence with hstale
        · rw [hother.2] at hevidence
          cases hevidence
        · exact hstale ⟨hother.1, hevidence.symm.trans hother.2⟩

theorem ValidLedger.reconcile_idempotent (hvalid : ValidLedger episodes resolutions)
    (implementationDigest : String) :
    reconcileMutationEpisodes
        (reconcileMutationEpisodes episodes resolutions implementationDigest) resolutions
        implementationDigest =
      reconcileMutationEpisodes episodes resolutions implementationDigest := by
  rw [reconcileMutationEpisodes, reconcileMutationEpisodes, List.map_map]
  exact List.map_congr_left fun episode hmem =>
    hvalid.reconcile_reconciled implementationDigest hmem

/-- After reconciliation the unbound completed episodes are those without an
observable outcome. -/
theorem ValidLedger.unbound_iff_unknown (hvalid : ValidLedger episodes resolutions)
    (implementationDigest : String) {episode : MutationEpisode}
    (hmem : episode ∈ reconcileMutationEpisodes episodes resolutions implementationDigest)
    (hcompleted : episode.status = .completed) :
    episode.implementationDigest = none ↔ episode.outcome = some .unknown := by
  constructor
  · intro hunbound
    obtain ⟨original, horiginal, rfl⟩ := List.mem_map.1 hmem
    have hreconciled := hvalid.reconciledTo implementationDigest horiginal
    rcases unknown_or_observed original with hunknown | hobserved
    · rw [hreconciled.untouched hunknown] at hcompleted ⊢
      exact hunknown.resolve_left (by simp [hcompleted])
    · cases hdigest : original.implementationDigest with
      | none => simp [(hreconciled.binds ⟨hobserved, hdigest⟩).1] at hunbound
      | some digest => simp [hreconciled.keepsBinding digest hdigest] at hunbound
  · intro hunknown
    exact unbound_of_unknown ((hvalid.reconcile implementationDigest).shaped episode hmem)
      (.inr hunknown)

theorem ValidLedger.count_reconcile (hvalid : ValidLedger episodes resolutions)
    (implementationDigest : String) :
    countUnboundMutationEpisodes
        (reconcileMutationEpisodes episodes resolutions implementationDigest) resolutions =
      (unresolvedMutationEpisodes
          (reconcileMutationEpisodes episodes resolutions implementationDigest)
          resolutions).length +
        (unresolvedUnknownOutcomes
          (reconcileMutationEpisodes episodes resolutions implementationDigest)
          resolutions).length := by
  have hunbound := fun episode hmem hcompleted =>
    @ValidLedger.unbound_iff_unknown _ _ hvalid implementationDigest episode hmem hcompleted
  generalize reconcileMutationEpisodes episodes resolutions implementationDigest =
    reconciled at hunbound
  rw [countUnboundMutationEpisodes,
    List.length_eq_length_filter_add (fun episode => episode.status == .dispatchAuthorized),
    List.filter_filter, List.filter_filter]
  congr 2
  · refine List.filter_congr fun episode _ => ?_
    cases episode.status with
    | dispatchAuthorized => simp
    | completed => rfl
  · refine List.filter_congr fun episode hmem => ?_
    cases hstatus : episode.status with
    | dispatchAuthorized => simp
    | completed =>
        have hsame : (episode.implementationDigest == none) =
            (episode.outcome == some .unknown) := by
          rw [Bool.eq_iff_iff, beq_iff_eq, beq_iff_eq]
          exact hunbound episode hmem hstatus
        rw [hsame]
        rfl

end Reconciled

/-! ### Reconciling a valid ledger -/

/-- Reconciling a valid ledger binds its unbound observed outcomes and outdates what
another implementation had bound; it leaves everything else as it is, nothing more to do
and only the unresolved dispatches and unknown outcomes to count. -/
theorem reconcileMutationEpisodes_sound {episodes : List MutationEpisode}
    {resolutions : List MutationEpisodeResolution} (implementationDigest : String)
    (hvalid : ValidLedger episodes resolutions) :
    let reconciled := reconcileMutationEpisodes episodes resolutions implementationDigest
    List.Forall₂ (ReconciledTo implementationDigest) episodes reconciled ∧
    reconcileMutationEpisodes reconciled resolutions implementationDigest = reconciled ∧
    ValidLedger reconciled resolutions ∧
    countUnboundMutationEpisodes reconciled resolutions =
      (unresolvedMutationEpisodes reconciled resolutions).length +
        (unresolvedUnknownOutcomes reconciled resolutions).length := by
  refine ⟨?_, hvalid.reconcile_idempotent implementationDigest,
    hvalid.reconcile implementationDigest, hvalid.count_reconcile implementationDigest⟩
  rw [reconcileMutationEpisodes, List.forall₂_map_right_iff, List.forall₂_same]
  exact fun episode hmem => hvalid.reconciledTo implementationDigest hmem

/-- A successful edit that an earlier implementation has bound. -/
def boundEdit : MutationEpisode :=
  ⟨"9f0c2b7e-1d34-4a6b-8c5d-7e8f90a1b2c3", "call-1", "edit",
    "5a4b3c2d-0e1f-4a2b-9c3d-4e5f60718293", 1, "2024-05-01T10:00:00.000Z", .completed,
    some "2024-05-01T10:00:05.000Z", some .success, some "digest-1", .eligible⟩

/-- An edit whose outcome the host could not observe. -/
def lostEdit : MutationEpisode :=
  { boundEdit with
    episodeId := "2c3d4e5f-6071-4829-93a4-b5c6d7e8f901"
    hostCallId := "call-2"
    outcome := some .unknown
    implementationDigest := none
    evidenceStatus := .ineligible }

/-- A failed edit that no implementation has bound yet. -/
def failedEdit : MutationEpisode :=
  { lostEdit with
    episodeId := "4e5f6071-8293-4a4b-85c6-d7e8f9011223"
    hostCallId := "call-3"
    outcome := some .failure }

/-- An edit under way. -/
def openEdit : MutationEpisode :=
  { lostEdit with
    episodeId := "60718293-a4b5-4c6d-87e8-f90112233445"
    hostCallId := "call-4"
    status := .dispatchAuthorized
    completedAt := none
    outcome := none }

def edits : List MutationEpisode := [boundEdit, lostEdit, failedEdit, openEdit]

/-- The lost edit is resolved under the next lease. -/
def editResolutions : List MutationEpisodeResolution :=
  [⟨"8293a4b5-c6d7-4e8f-9011-223344556677", "call-2", "2024-05-01T10:01:00.000Z",
    "6b5c4d3e-1f20-4b3c-8d4e-5f6071829304", 2⟩]

theorem validLedger_edits : ValidLedger edits editResolutions where
  shaped := by decide
  related := by decide

/-- A later implementation outdates the evidence of the earlier one. -/
theorem boundEdit_not_kept :
    ¬ ∀ episodes resolutions implementationDigest, ValidLedger episodes resolutions →
      List.Forall₂
        (fun episode reconciled =>
          reconciled = { episode with implementationDigest := reconciled.implementationDigest } ∨
            Eligible episode)
        episodes (reconcileMutationEpisodes episodes resolutions implementationDigest) := by
  intro hkept
  have hboth := hkept edits editResolutions "digest-2" validLedger_edits
  rcases (List.forall₂_cons.1 hboth).1 with hsame | heligible
  · exact absurd (congrArg MutationEpisode.evidenceStatus hsame) (by decide)
  · exact absurd heligible.2 (by decide)

theorem reconcileMutationEpisodes_sound_edits :
    ValidLedger edits editResolutions ∧ Eligible failedEdit ∧
    List.Forall₂ (ReconciledTo "digest-2") edits
      (reconcileMutationEpisodes edits editResolutions "digest-2") ∧
    countUnboundMutationEpisodes
      (reconcileMutationEpisodes edits editResolutions "digest-2") editResolutions = 1 :=
  have hsound := reconcileMutationEpisodes_sound "digest-2" validLedger_edits
  ⟨validLedger_edits, ⟨rfl, rfl⟩, hsound.1, hsound.2.2.2⟩

end GovernedRuntime.Mutation
