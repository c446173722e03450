/-
What a commit writes: over a ledger, materialisation is a script of whole
artifacts, one for each piece of evidence that has none.
-/
import GovernedRuntime.Artifacts.Ledger

namespace GovernedRuntime.Artifacts

open GovernedRuntime.Activation (isNonEmpty isSha256Hex)
open GovernedRuntime.Library GovernedRuntime.State

variable {encoding : ArtifactEncoding}

/-! ### Missing artifacts -/

/-- The ticket of a state, when no version carries its digest. -/
def unrecordedTicket (existing : List EvidenceArtifactMeta) (state : SessionState) :
    List TicketEvidence :=
  match state.ticket with
  | none => []
  | some ticket =>
      if existing.any fun entry => entry.contentHash == ticket.digest then [] else [ticket]

/-- The revisions whose record digest was not seen before. -/
def unrecordedRevisions (seen : List (Option String)) :
    List PlanEvidence → List PlanEvidence
  | [] => []
  | revision :: rest =>
      if some revision.recordDigest ∈ seen then unrecordedRevisions seen rest
      else
        revision :: unrecordedRevisions (seen ++ [some revision.recordDigest]) rest

def unrecordedPlan (existing : List EvidenceArtifactMeta) (state : SessionState) :
    List PlanEvidence :=
  match state.plan with
  | none => []
  | some plan =>
      unrecordedRevisions (existing.map (·.recordDigest)) (orderedPlanRevisions plan)

theorem mem_of_mem_unrecordedRevisions {seen : List (Option String)}
    {revisions : List PlanEvidence} {revision : PlanEvidence}
    (hmem : revision ∈ unrecordedRevisions seen revisions) : revision ∈ revisions := by
  induction revisions generalizing seen with
  | nil => simp [unrecordedRevisions] at hmem
  | cons head rest ih =>
      rw [unrecordedRevisions] at hmem
      by_cases hseen : some head.recordDigest ∈ seen
      · rw [if_pos hseen] at hmem
        exact List.mem_cons_of_mem head (ih hmem)
      · rw [if_neg hseen] at hmem
        rcases List.mem_cons.1 hmem with rfl | hrest
        · exact List.mem_cons_self
        · exact List.mem_cons_of_mem head (ih hrest)

/-- Every revision was seen before, or one with its record digest is written. -/
theorem seen_or_unrecorded {seen : List (Option String)} {revisions : List PlanEvidence}
    {revision : PlanEvidence} (hmem : revision ∈ revisions) :
    some revision.recordDigest ∈ seen ∨
      ∃ kept ∈ unrecordedRevisions seen revisions,
        kept.recordDigest = revision.recordDigest := by
  induction revisions generalizing seen with
  | nil => cases hmem
  | cons head rest ih =>
      rw [unrecordedRevisions]
      by_cases hseen : some head.recordDigest ∈ seen
      · rw [if_pos hseen]
        rcases List.mem_cons.1 hmem with rfl | hrest
        · exact Or.inl hseen
        · exact ih hrest
      · rw [if_neg hseen]
        rcases List.mem_cons.1 hmem with rfl | hrest
        · exact Or.inr ⟨revision, List.mem_cons_self, rfl⟩
        · have hlater : some revision.recordDigest ∈ seen ++ [some head.recordDigest] ∨ _ :=
            ih hrest
          rcases hlater with hold | hnew
          · rcases List.mem_append.1 hold with hearlier | hhead
            · exact Or.inl hearlier
            · rw [List.mem_singleton] at hhead
              exact Or.inr ⟨head, List.mem_cons_self, (Option.some.inj hhead).symm⟩
          · obtain ⟨kept, hkept, hsame⟩ := hnew
            exact Or.inr ⟨kept, List.mem_cons_of_mem head hkept, hsame⟩

/-! ### Growth -/

/-- A ledger after some tickets and some revisions got an artifact each. -/
structure Growth (ledger after : Ledger encoding) (added : List (Artifact encoding))
    (tickets : List TicketEvidence) (revisions : List PlanEvidence) : Prop where
  artifacts : after.artifacts = ledger.artifacts ++ added
  tickets : (ofType added .ticket).map (·.entry.contentHash) = tickets.map (·.digest)
  revisions : (ofType added .plan).Forall₂
    (fun artifact revision => Records artifact.entry revision) revisions

theorem Growth.refl (ledger : Ledger encoding) : Growth ledger ledger [] [] [] :=
  ⟨(List.append_nil _).symm, rfl, .nil⟩

theorem Growth.trans {ledger middle after : Ledger encoding}
    {first second : List (Artifact encoding)} {tickets tickets' : List TicketEvidence}
    {revisions revisions' : List PlanEvidence}
    (hfirst : Growth ledger middle first tickets revisions)
    (hsecond : Growth middle after second tickets' revisions') :
    Growth ledger after (first ++ second) (tickets ++ tickets')
      (revisions ++ revisions') where
  artifacts := by rw [hsecond.artifacts, hfirst.artifacts, List.append_assoc]
  tickets := by
    rw [ofType_append, List.map_append, List.map_append, hfirst.tickets, hsecond.tickets]
  revisions := by
    rw [ofType_append]
    exact List.rel_append hfirst.revisions hsecond.revisions

theorem Growth.files {ledger after : Ledger encoding} {added : List (Artifact encoding)}
    {tickets : List TicketEvidence} {revisions : List PlanEvidence}
    (hgrowth : Growth ledger after added tickets revisions) :
    after.files = ledger.files ++ added.flatMap Artifact.files := by
  rw [Ledger.files, hgrowth.artifacts, List.flatMap_append]
  rfl

theorem length_ofType (artifacts : List (Artifact encoding)) :
    artifacts.length = (ofType artifacts .ticket).length + (ofType artifacts .plan).length := by
  induction artifacts with
  | nil => rfl
  | cons artifact rest ih =>
      have hone := ofType_append [artifact] rest
      simp only [List.singleton_append] at hone
      rw [hone, hone, List.length_cons, List.length_append, List.length_append,
        ofType_singleton, ofType_singleton, ih]
      cases artifact.entry.artifactType <;> simp <;> omega

theorem Growth.length {ledger after : Ledger encoding} {added : List (Artifact encoding)}
    {tickets : List TicketEvidence} {revisions : List PlanEvidence}
    (hgrowth : Growth ledger after added tickets revisions) :
    added.length = tickets.length + revisions.length := by
  have htickets := congrArg List.length hgrowth.tickets
  rw [List.length_map, List.length_map] at htickets
  rw [length_ofType, htickets, hgrowth.revisions.length_eq]

theorem Growth.ticketEntries {ledger after : Ledger encoding}
    {added : List (Artifact encoding)} {tickets : List TicketEvidence}
    {revisions : List PlanEvidence}
    (hgrowth : Growth ledger after added tickets revisions) :
    (after.entries .ticket).map (·.contentHash) =
      (ledger.entries .ticket).map (·.contentHash) ++ tickets.map (·.digest) := by
  rw [Ledger.entries_append hgrowth.artifacts, List.map_append, ← hgrowth.tickets]
  simp only [List.map_map, Function.comp_def]

theorem Growth.of_append {ledger : Ledger encoding} {artifact : Artifact encoding}
    {tickets : List TicketEvidence} {revisions : List PlanEvidence}
    (hversion : artifact.entry.version =
      (ofType ledger.artifacts artifact.entry.artifactType).length + 1)
    (hfresh : artifact.entry.artifactType = .plan → artifact.entry.recordDigest ∉
      (ofType ledger.artifacts .plan).map (·.entry.recordDigest))
    (htickets : (ofType [artifact] .ticket).map (·.entry.contentHash) =
      tickets.map (·.digest))
    (hrevisions : (ofType [artifact] .plan).Forall₂
      (fun artifact revision => Records artifact.entry revision) revisions) :
    Growth ledger (ledger.append artifact hversion hfresh) [artifact] tickets revisions :=
  ⟨rfl, htickets, hrevisions⟩

/-! ### Writing -/

/-- At the next version both files are free, so they are written. -/
theorem writeArtifact_eq {ledger : Ledger encoding} {writer : ArtifactWriter}
    (hfiles : writer.files = ledger.files) (artifact : Artifact encoding)
    (hversion : artifact.entry.version =
      (ofType ledger.artifacts artifact.entry.artifactType).length + 1) :
    writeArtifact writer artifact.markdown artifact.entry =
      writer.writeAll artifactWriteFailed artifact.files := by
  have hfree : ∀ extension, ledger.files.read
      ⟨artifact.entry.artifactType, artifact.entry.version, extension⟩ = none := by
    intro extension
    apply ledger.read_next
    simp only [hversion]
    omega
  have hpath := artifact.path
  rw [writeArtifact, writeImmutableFile, hfiles, hpath, hfree, Artifact.files,
    FileWriter.writeAll, hpath]
  cases hwrite : writer.write (artifactWriteFailed
      ⟨artifact.entry.artifactType, artifact.entry.version, .markdown⟩)
      ⟨artifact.entry.artifactType, artifact.entry.version, .markdown⟩
      (.text artifact.markdown) with
  | error interrupted => rfl
  | ok next =>
      have hnext : next.files.read
          ⟨artifact.entry.artifactType, artifact.entry.version, .metadata⟩ = none := by
        rw [FileWriter.files_of_write hwrite, hfiles, Files.read_eq_none_iff, List.map_append,
          List.mem_append, not_or]
        exact ⟨Files.read_eq_none_iff.1 (hfree _), by simp⟩
      simp only [Except.bind, writeImmutableFile, hnext, FileWriter.writeAll]
      cases next.write _ _ _ with
      | error interrupted => rfl
      | ok last => rfl

def ticketArtifact (encoding : ArtifactEncoding) (state : SessionState)
    (ticket : TicketEvidence) (version : Nat) (hversion : 0 < version)
    (hdigest : ticket.digest ≠ "") : Artifact encoding where
  markdown := ticketMarkdown state ticket version
  entry := ticketMeta encoding state ticket version
  shape := by
    simp [isArtifactMeta, checkBaseArtifactFields, checkHashAndDerivedFields, ticketMeta,
      isNonEmpty, hversion, hdigest]
  schema := rfl
  path := rfl
  integrity := rfl

def planArtifact (encoding : ArtifactEncoding) (state : SessionState)
    (revision : PlanEvidence) (version : Nat) (hversion : 0 < version)
    (hdigest : revision.digest ≠ "") (hrecord : isSha256Hex revision.recordDigest = true) :
    Artifact encoding where
  markdown := planMarkdown state revision version
  entry := planMeta encoding state revision version
  shape := by
    simp [isArtifactMeta, checkBaseArtifactFields, checkHashAndDerivedFields, planMeta,
      isNonEmpty, hversion, hdigest, hrecord]
  schema := rfl
  path := rfl
  integrity := rfl

/-- The ticket of a valid state gets an artifact unless it has one. -/
theorem materializeTicketArtifact_eq (ledger : Ledger encoding) (state : SessionState)
    (hdigest : ∀ ticket, state.ticket = some ticket → ticket.digest ≠ "") :
    ∃ after added,
      Growth ledger after added (unrecordedTicket (ledger.entries .ticket) state) [] ∧
      ∀ writer : ArtifactWriter, writer.files = ledger.files →
        materializeTicketArtifact encoding writer state =
          writer.writeAll artifactWriteFailed (added.flatMap Artifact.files) := by
  cases hticket : state.ticket with
  | none =>
      refine ⟨ledger, [], ?_, ?_⟩
      · rw [unrecordedTicket, hticket]
        exact Growth.refl ledger
      · intro writer hfiles
        rw [materializeTicketArtifact, hticket]
        rfl
  | some ticket =>
      by_cases hany : (ledger.entries .ticket).any
          (fun entry => entry.contentHash == ticket.digest) = true
      · refine ⟨ledger, [], ?_, ?_⟩
        · rw [unrecordedTicket, hticket]
          simp only [hany, if_true]
          exact Growth.refl ledger
        · intro writer hfiles
          rw [materializeTicketArtifact, hticket]
          simp only [hfiles, ledger.readArtifactVersions_files, hany, if_true]
          rfl
      · let artifact := ticketArtifact encoding state ticket
          ((ofType ledger.artifacts .ticket).length + 1) (by omega) (hdigest ticket hticket)
        have hfresh : artifact.entry.artifactType = .plan → artifact.entry.recordDigest ∉
            (ofType ledger.artifacts .plan).map (·.entry.recordDigest) := by
          intro htype
          cases htype
        refine ⟨ledger.append artifact rfl hfresh, [artifact], ?_, ?_⟩
        · rw [unrecordedTicket, hticket]
          simp only [hany]
          exact Growth.of_append rfl hfresh rfl .nil
        · intro writer hfiles
          rw [materializeTicketArtifact, hticket, List.flatMap_singleton]
          simp only [hfiles, ledger.readArtifactVersions_files, hany,
            ledger.latestVersion_entries]
          exact writeArtifact_eq hfiles artifact rfl

/-- A loop over revisions that are not recorded twice writes their artifacts, then
checks the coverage against the ledger it leaves. -/
theorem materializeRevisions_eq (state : SessionState) (chain : List PlanEvidence)
    (ledger : Ledger encoding) {revisions : List PlanEvidence}
    (hdigests : ∀ revision ∈ revisions,
      revision.digest ≠ "" ∧ isSha256Hex revision.recordDigest = true) :
    ∃ after added,
      Growth ledger after added []
        (unrecordedRevisions ((ledger.entries .plan).map (·.recordDigest)) revisions) ∧
      ∀ writer : ArtifactWriter, writer.files = ledger.files →
        materializeRevisions encoding state chain writer (ledger.entries .plan) revisions =
          (writer.writeAll artifactWriteFailed (added.flatMap Artifact.files)).bind
            (checkPlanCoverage (after.entries .plan) chain) := by
  induction revisions generalizing ledger with
  | nil => exact ⟨ledger, [], Growth.refl ledger, fun writer _ => rfl⟩
  | cons revision rest ih =>
      rw [List.forall_mem_cons] at hdigests
      obtain ⟨⟨hdigest, hrecord⟩, hrest⟩ := hdigests
      by_cases hseen : some revision.recordDigest ∈
          (ledger.entries .plan).map (·.recordDigest)
      · obtain ⟨after, added, hgrowth, hwrites⟩ := ih ledger hrest
        refine ⟨after, added, ?_, ?_⟩
        · rw [unrecordedRevisions, if_pos hseen]
          exact hgrowth
        · intro writer hfiles
          have hany : (ledger.entries .plan).any
              (fun entry => entry.recordDigest == some revision.recordDigest) = true := by
            obtain ⟨entry, hentry, hsame⟩ := List.mem_map.1 hseen
            exact List.any_eq_true.2 ⟨entry, hentry, by simp [hsame]⟩
          rw [materializeRevisions, if_pos hany]
          exact hwrites writer hfiles
      · let artifact := planArtifact encoding state revision
          ((ofType ledger.artifacts .plan).length + 1) (by omega) hdigest hrecord
        have hfresh : artifact.entry.artifactType = .plan → artifact.entry.recordDigest ∉
            (ofType ledger.artifacts .plan).map (·.entry.recordDigest) := by
          intro _ hmem
          apply hseen
          rw [Ledger.entries, List.map_map]
          exact hmem
        have hone : Growth ledger (ledger.append artifact rfl hfresh) [artifact] []
            [revision] :=
          Growth.of_append rfl hfresh rfl (.cons ⟨rfl, rfl, rfl⟩ .nil)
        obtain ⟨after, added, hgrowth, hwrites⟩ := ih (ledger.append artifact rfl hfresh) hrest
        refine ⟨after, [artifact] ++ added, ?_, ?_⟩
        · rw [unrecordedRevisions, if_neg hseen]
          have hboth := hone.trans hgrowth
          rw [Ledger.entries_append hone.artifacts, List.map_append] at hboth
          exact hboth
        · intro writer hfiles
          have hany : ¬(ledger.entries .plan).any
              (fun entry => entry.recordDigest == some revision.recordDigest) = true := by
            intro hfound
            obtain ⟨entry, hentry, hsame⟩ := List.any_eq_true.1 hfound
            exact hseen (List.mem_map.2 ⟨entry, hentry, beq_iff_eq.1 hsame⟩)
          have hwrite : createPlanArtifact encoding writer state revision
              (latestVersion (ledger.entries .plan) + 1) =
              writer.writeAll artifactWriteFailed artifact.files := by
            rw [ledger.latestVersion_entries]
            exact writeArtifact_eq hfiles artifact rfl
          rw [materializeRevisions, if_neg hany, hwrite, List.flatMap_append,
            List.flatMap_singleton, FileWriter.writeAll_append]
          cases hfirst : writer.writeAll artifactWriteFailed artifact.files with
          | error interrupted => rfl
          | ok next =>
              have hnext : next.files = (ledger.append artifact rfl hfresh).files := by
                rw [FileWriter.files_of_writeAll hfirst, hfiles, hone.files,
                  List.flatMap_singleton]
              simp only [Except.bind]
              rw [hnext, Ledger.readArtifactVersions_files]
              exact hwrites next hnext

/-! ### Valid states -/

theorem ticket_of_schemaIssue {state : SessionState}
    (hvalid : schemaIssue encoding state = none) {ticket : TicketEvidence}
    (hticket : state.ticket = some ticket) : ticket.digest ≠ "" := by
  rw [schemaIssue, hticket, Option.bind_some, ticketSchemaIssue] at hvalid
  intro hempty
  by_cases htext : ticket.text = ""
  · simp [htext] at hvalid
  · simp [htext, hempty] at hvalid

theorem hashText_ne_empty (encoding : ArtifactEncoding) (text : String) :
    encoding.hashText text ≠ "" := by
  intro hempty
  have hhex := isSha256Hex_hashText encoding text
  rw [hempty, isSha256Hex_empty] at hhex
  cases hhex

theorem planRecordIssue_of_schemaIssue {state : SessionState}
    (hvalid : schemaIssue encoding state = none) {plan : PlanRecord}
    (hplan : state.plan = some plan) :
    planRecordIssue encoding.hashText encoding.lineageText plan = none := by
  rw [schemaIssue] at hvalid
  cases hticket : state.ticket.bind ticketSchemaIssue with
  | some issue => simp [hticket] at hvalid
  | none =>
      simp only [hticket, hplan, Option.bind_some, planSchemaIssue] at hvalid
      split_ifs at hvalid
      exact Option.map_eq_none_iff.1 hvalid

/-- The digests of a valid plan are digests. -/
theorem plan_of_schemaIssue {state : SessionState}
    (hvalid : schemaIssue encoding state = none) {plan : PlanRecord}
    (hplan : state.plan = some plan) :
    ∀ revision ∈ orderedPlanRevisions plan,
      revision.digest ≠ "" ∧ isSha256Hex revision.recordDigest = true := by
  intro revision hrevision
  obtain ⟨hdigest, hrecord⟩ := digests_of_planRecordIssue encoding.hashText
    encoding.lineageText (planRecordIssue_of_schemaIssue hvalid hplan) hrevision
  rw [hdigest, hrecord, computeRecordDigest]
  exact ⟨hashText_ne_empty encoding _, isSha256Hex_hashText encoding _⟩

/-! ### Materialisation -/

/-- The check behind the loop, for a state that may have no plan. -/
def checkCoverage (existing : List EvidenceArtifactMeta) (state : SessionState)
    (writer : ArtifactWriter) : ArtifactWriteResult :=
  match state.plan with
  | none => .ok writer
  | some plan => checkPlanCoverage existing (orderedPlanRevisions plan) writer

theorem materializePlanArtifacts_eq (ledger : Ledger encoding) {state : SessionState}
    (hvalid : schemaIssue encoding state = none) :
    ∃ after added,
      Growth ledger after added [] (unrecordedPlan (ledger.entries .plan) state) ∧
      ∀ writer : ArtifactWriter, writer.files = ledger.files →
        materializePlanArtifacts encoding writer state =
          (writer.writeAll artifactWriteFailed (added.flatMap Artifact.files)).bind
            (checkCoverage (after.entries .plan) state) := by
  cases hplan : state.plan with
  | none =>
      refine ⟨ledger, [], ?_, ?_⟩
      · rw [unrecordedPlan, hplan]
        exact Growth.refl ledger
      · intro writer _
        have hcheck : checkCoverage (ledger.entries .plan) state = .ok := by
          funext last
          simp only [checkCoverage, hplan]
        simp only [materializePlanArtifacts, hplan, hcheck]
        rfl
  | some plan =>
      obtain ⟨after, added, hgrowth, hwrites⟩ := materializeRevisions_eq state
        (orderedPlanRevisions plan) ledger (plan_of_schemaIssue hvalid hplan)
      refine ⟨after, added, ?_, ?_⟩
      · rw [unrecordedPlan, hplan]
        exact hgrowth
      · intro writer hfiles
        have hcheck : checkCoverage (after.entries .plan) state =
            checkPlanCoverage (after.entries .plan) (orderedPlanRevisions plan) := by
          funext last
          simp only [checkCoverage, hplan]
        simp only [materializePlanArtifacts, hplan, hfiles, hcheck,
          ledger.readArtifactVersions_files]
        exact hwrites writer hfiles

/-- Materialisation writes one artifact for each piece of evidence that has none. -/
theorem materializeTicketAndPlan_eq (ledger : Ledger encoding) {state : SessionState}
    (hvalid : schemaIssue encoding state = none) :
    ∃ after added,
      Growth ledger after added (unrecordedTicket (ledger.entries .ticket) state)
        (unrecordedPlan (ledger.entries .plan) state) ∧
      ∀ writer : ArtifactWriter, writer.files = ledger.files →
        materializeTicketAndPlan encoding writer state =
          (writer.writeAll artifactWriteFailed (added.flatMap Artifact.files)).bind
            (checkCoverage (after.entries .plan) state) := by
  obtain ⟨middle, first, hfirst, htickets⟩ := materializeTicketArtifact_eq ledger state
    fun ticket hticket => ticket_of_schemaIssue hvalid hticket
  obtain ⟨after, second, hsecond, hplans⟩ := materializePlanArtifacts_eq middle hvalid
  have hentries : middle.entries .plan = ledger.entries .plan := by
    have hnone : ofType first .plan = [] := List.forall₂_nil_right_iff.1 hfirst.revisions
    rw [Ledger.entries_append hfirst.artifacts, hnone, List.map_nil, List.append_nil]
  refine ⟨after, first ++ second, ?_, ?_⟩
  · have hboth := hfirst.trans hsecond
    rw [hentries, List.append_nil, List.nil_append] at hboth
    exact hboth
  · intro writer hfiles
    rw [materializeTicketAndPlan, htickets writer hfiles, List.flatMap_append,
      FileWriter.writeAll_append]
    cases hwrite : writer.writeAll artifactWriteFailed (first.flatMap Artifact.files) with
    | error interrupted => rfl
    | ok next =>
        have hnext : next.files = middle.files := by
          rw [FileWriter.files_of_writeAll hwrite, hfiles, hfirst.files]
        exact hplans next hnext

end GovernedRuntime.Artifacts
