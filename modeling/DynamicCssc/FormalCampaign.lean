import DynamicCssc.CampaignProgress

/-! The campaign state machine as a whole: what every campaign keeps, and when it is selected. -/
namespace DynamicCssc
open Foundation

structure CampaignLineage.Valid (lineage : CampaignLineage) : Prop where
  experimentSource : validGitSha lineage.experimentSourceS1 = true
  evidenceFreeze : validGitSha lineage.evidenceFreezeS2 = true
  compatibility : validSha256 lineage.compatibilityReceipt = true
  qualificationRun : 0 < lineage.qualificationRunId
  qualificationArtifact : 0 < lineage.qualificationQ6ArtifactId
  qualificationDigest : validProviderDigest lineage.qualificationQ6ArtifactDigest = true

private theorem open_ok (sha : Sha256) {lineage : CampaignLineage} (valid : lineage.Valid)
    {profile : RouteAScientificProfile} {specs : List FollowupFormalUnitSpec}
    (specsOk : followupFormalUnitSpecs profile = .ok specs) :
    ∃ opened, openFollowupCampaignState sha lineage profile = .ok opened := by
  obtain ⟨matrix,matrixOk,matrixValid⟩ : ∃ matrix, followupFormalMatrixSha256 sha profile = .ok matrix ∧
      validSha256 matrix = true := by
    rw [followupFormalMatrixSha256,specsOk]
    exact ⟨_,rfl,sha.shape _⟩
  obtain ⟨campaignId,idOk,idValid⟩ : ∃ campaignId, followupFormalCampaignId sha
      (.str lineage.experimentSourceS1) (.str lineage.evidenceFreezeS2) (.str lineage.compatibilityReceipt)
      (.int lineage.qualificationRunId) (.int lineage.qualificationQ6ArtifactId)
      (.str lineage.qualificationQ6ArtifactDigest) (.str matrix) = .ok campaignId ∧
      validSha256 campaignId = true := by
    rw [followupFormalCampaignId]
    simp only [requireGitSha,requireSha,requirePositive,requireProviderDigest,valid.experimentSource,
      valid.evidenceFreeze,valid.compatibility,valid.qualificationRun,valid.qualificationArtifact,
      valid.qualificationDigest,matrixValid,if_true,Checked.ok_bind]
    exact ⟨_,rfl,sha.shape _⟩
  have lineageOk : validateLineage sha (openDocument lineage campaignId matrix) = .ok () := by
    have named : followupFormalCampaignId sha (openDocument lineage campaignId matrix .experimentSourceS1)
        (openDocument lineage campaignId matrix .evidenceFreezeS2)
        (openDocument lineage campaignId matrix .compatibilityReceipt)
        (openDocument lineage campaignId matrix .qualificationRunId)
        (openDocument lineage campaignId matrix .qualificationQ6ArtifactId)
        (openDocument lineage campaignId matrix .qualificationQ6ArtifactDigest)
        (openDocument lineage campaignId matrix .formalMatrix) = .ok campaignId := idOk
    rw [validateLineage]
    refine (Checked.bind_success _ _ _).mpr ⟨campaignId,if_pos idValid,?_⟩
    refine (Checked.bind_success _ _ _).mpr ⟨_,if_pos valid.compatibility,?_⟩
    refine (Checked.bind_success _ _ _).mpr ⟨_,if_pos valid.experimentSource,?_⟩
    refine (Checked.bind_success _ _ _).mpr ⟨_,if_pos valid.evidenceFreeze,?_⟩
    refine (Checked.bind_success _ _ _).mpr ⟨_,if_pos matrixValid,?_⟩
    refine (Checked.bind_success _ _ _).mpr ⟨_,if_pos valid.qualificationRun,?_⟩
    refine (Checked.bind_success _ _ _).mpr ⟨_,if_pos valid.qualificationArtifact,?_⟩
    refine (Checked.bind_success _ _ _).mpr ⟨_,if_pos valid.qualificationDigest,?_⟩
    exact (Checked.bind_success _ _ _).mpr ⟨campaignId,named,Checked.require_true _ _ rfl⟩
  have scalars : equalsText campaignStateSchema (.str campaignStateSchema) = true ∧
      equalsText followupStudyId (.str followupStudyId) = true ∧
      equalsText followupStage1PlanSha256 (.str followupStage1PlanSha256) = true ∧
      equalsText followupBaselineSha256 (.str followupBaselineSha256) = true ∧
      isFalse (.bool false) = true ∧ isFalse (.bool false) = true :=
    ⟨beq_self_eq_true _,beq_self_eq_true _,beq_self_eq_true _,beq_self_eq_true _,rfl,rfl⟩
  have closed : DocumentClosed sha (openDocument lineage campaignId matrix) :=
    ⟨scalars,rfl,rfl,lineageOk,rfl,.campaignOpen,by
      show requireStateName (.str CampaignStateName.campaignOpen.name) = .ok .campaignOpen
      simp [requireStateName],rfl⟩
  have canonical : (openDocument lineage campaignId matrix).Canonical := by
    refine CampaignDocument.update_canonical (fun _ => .null) ?_
    simp [Json.Canonical.bool,Json.Canonical.int,Json.Canonical.str]
  rw [openFollowupCampaignState,matrixOk,Checked.ok_bind,idOk,Checked.ok_bind]
  exact ⟨_,(newState_success sha _ [] canonical _).mpr ⟨closed,rfl⟩⟩

/-- What a campaign keeps, whatever transitions are asked of it. -/
structure CampaignKeeps (sha : Sha256) (profile : RouteAScientificProfile)
    (opened : FollowupCampaignState) (labels : List CampaignTransition)
    (states : List FollowupCampaignState) : Prop where
  reinspected : ∀ state ∈ states, inspectFollowupCampaignState sha state.documentBytes = .ok state
  sequence : ∀ (place : ℕ) state, states[place]? = some state → state.document .sequence = .int place
  lineage : ∀ state ∈ states, ∀ field ∈ lineageFields, state.document field = opened.document field
  ordinals : (committedStates states).map (fun state => state.document .unitOrdinal) =
    (List.range (committedStates states).length).map fun ordinal : ℕ => .int ordinal
  -- the one retry of the campaign, and the flag that remembers it
  replacement_once : labels.countP CampaignTransition.isReplacement ≤ 1
  replacement_after : ∀ (place : ℕ) spec attempt, labels[place]? = some (.reserve spec attempt) →
    equalsInt 2 attempt = true → ∃ before, states[place]? = some before ∧ before.state = some .unitProviderFailed ∧
      before.document .unitOrdinal = .int spec.ordinal
  retryUsed : ∀ (place : ℕ) state, states[place]? = some state →
    state.document .retryUsed = .bool ((labels.take place).any CampaignTransition.isReplacement)
  -- a reservation, a binding and an armed watch since the last idle state, and nothing else
  chain : ∀ (place : ℕ) state, states[place]? = some state → state.state = some .unitCommitted →
    ∃ first before spec attempt runId session output, place = first + 4 ∧
      CommittedChain labels states first before state spec attempt runId session output
  closed : ∀ (place : ℕ) state, states[place]? = some state → state.state = some .campaignNoGo →
    place = labels.length
  selection : ∀ admissions, DistinctIdentities (committedStates states) admissions →
    (Selectable profile (committedStates states) ↔
      ∃ selection, buildFollowupCampaignSelection sha (committedStates states) admissions profile =
          .ok selection ∧
        inspectFollowupCampaignSelection sha selection.documentBytes
          ((committedStates states).map FollowupCampaignState.documentBytes) profile = .ok selection)

section
variable {sha : Sha256} {lineage : CampaignLineage} {profile : RouteAScientificProfile}
  {opened last : FollowupCampaignState} {labels : List CampaignTransition}
  {states : List FollowupCampaignState}

private theorem replaced_after_failure (made : openFollowupCampaignState sha lineage profile = .ok opened)
    (run : CampaignRun sha opened labels states last) (place : ℕ) (spec : FollowupFormalUnitSpec)
    (attempt : Json) (here : labels[place]? = some (.reserve spec attempt))
    (second : equalsInt 2 attempt = true) :
    ∃ before, states[place]? = some before ∧ before.state = some .unitProviderFailed ∧
      before.document .unitOrdinal = .int spec.ordinal := by
  have bound := (List.getElem?_eq_some_iff.mp here).1
  have size := run.length
  have found : states[place]? = some states[place] := List.getElem?_eq_getElem (by omega)
  have next : states[place + 1]? = some states[place + 1] := List.getElem?_eq_getElem (by omega)
  obtain ⟨label,taken,accepted⟩ := run.consecutive place _ _ found next
  rw [here,Option.some.injEq] at taken
  obtain ⟨view,history⟩ := campaign_history made (run.upto place _ found)
  obtain ⟨_,step⟩ := (apply_success sha history.canonical label _).mp accepted
  have permits := history.shows.permits history.valid step.allowed
  rw [← taken] at permits
  rcases permits with nominal | replacement
  · rw [equalsInt_two nominal.1] at second
    cases second
  · have active : CampaignView.active view.stage := .inr (.inr (.inr replacement.2.1))
    have named := history.shows.ordinal (.inr active)
    rw [CampaignView.ordinal_active active,← replacement.2.2.2] at named
    exact ⟨_,found,replacement.2.1 ▸ history.shows.stage,named⟩

private theorem retry_remembered (made : openFollowupCampaignState sha lineage profile = .ok opened)
    (run : CampaignRun sha opened labels states last) (place : ℕ) (state : FollowupCampaignState)
    (here : states[place]? = some state) :
    state.document .retryUsed = .bool ((labels.take place).any CampaignTransition.isReplacement) := by
  obtain ⟨view,history⟩ := campaign_history made (run.upto place state here)
  rw [history.shows.retryUsed,history.retry]

private theorem committed_ordinals {view : CampaignView} (history : CampaignHistory opened labels states last view) :
    (committedStates states).map (fun state => state.document .unitOrdinal) =
      (List.range (committedStates states).length).map fun ordinal : ℕ => .int ordinal := by
  apply List.ext_getElem
  · simp
  · intro place left right
    rw [List.length_map] at left
    rw [List.getElem_map,List.getElem_map,List.getElem_range]
    exact (history.units place _ (List.getElem?_eq_getElem left)).ordinal

end

/-- Every campaign from an open state keeps what a campaign must keep. -/
theorem campaign_keeps (sha : Sha256) (lineage : CampaignLineage) (profile : RouteAScientificProfile)
    (opened last : FollowupCampaignState) (labels : List CampaignTransition)
    (states : List FollowupCampaignState)
    (made : openFollowupCampaignState sha lineage profile = .ok opened)
    (run : CampaignRun sha opened labels states last) :
    CampaignKeeps sha profile opened labels states := by
  obtain ⟨view,history⟩ := campaign_history made run
  exact {
    reinspected := reinspected made run
    sequence := sequence_place made run
    lineage := lineage_kept made run
    ordinals := committed_ordinals history
    replacement_once := history.once
    replacement_after := replaced_after_failure made run
    retryUsed := retry_remembered made run
    chain := committed_chain made run
    closed := closed_final made run
    selection := by
      intro admissions ready
      refine ⟨selection_ok made run ready,?_⟩
      rintro ⟨selection,built,_⟩
      exact build_named built }

/-! A campaign of seventeen units whose identities are their ordinals. -/

def threeSeeds : RouteAScientificProfile := ⟨[1,2,3],by decide,by decide,by decide⟩

def plainLineage : CampaignLineage where
  experimentSourceS1 := String.ofList (List.replicate 40 'a')
  evidenceFreezeS2 := String.ofList (List.replicate 40 'b')
  compatibilityReceipt := zeroDigest
  qualificationRunId := 1
  qualificationQ6ArtifactId := 2
  qualificationQ6ArtifactDigest := String.ofList ("sha256:".toList ++ List.replicate 64 'c')

private theorem plainLineage_valid : plainLineage.Valid := by
  refine ⟨?_,?_,?_,?_,?_,?_⟩ <;> decide +kernel

def numberedName (place : ℕ) : String :=
  String.ofList ("followup-performance-v1-".toList ++ [Char.ofNat (97 + place)])

def numberedDigest (place : ℕ) : String :=
  String.ofList ("sha256:".toList ++ List.replicate 62 '0' ++
    [Nat.digitChar (place / 16),Nat.digitChar (place % 16)])

def numberedAdmission (place : ℕ) : String :=
  String.ofList (List.replicate 62 '0' ++ [Nat.digitChar (place / 16),Nat.digitChar (place % 16)])

def numberedUnit (kinds : ℕ → String) (attempt : Json) (place : ℕ) : PlannedUnit where
  unitKind := kinds place
  attempt := attempt
  runId := place + 1
  session := zeroDigest
  output := ⟨zeroDigest,place + 1,numberedName place,numberedDigest place,zeroDigest⟩

private theorem numberedUnit_sound (kinds : ℕ → String) (known : ∀ place < 17, kinds place ∈ campaignUnitKinds)
    {attempt : Json} (first : equalsInt 1 attempt = true) :
    ∀ place < 17, (numberedUnit kinds attempt place).Sound := by
  have names : ∀ place < 17, "followup-performance-v1-".toList.isPrefixOf (numberedName place).toList = true ∧
      validProviderDigest (numberedDigest place) = true := by decide +kernel
  have zero : validSha256 zeroDigest = true := by decide +kernel
  intro place below
  obtain ⟨name,digest⟩ := names place below
  refine ⟨known place below,first,?_,zero,zero,?_,name,digest,zero⟩ <;>
    (simp only [numberedUnit]; omega)

private theorem numbered_distinct (kinds : ℕ → String) (attempt : Json) (committed : List FollowupCampaignState)
    (identities : ∀ field ∈ identityFields, committed.map (fun state => state.document field) =
      (List.range 17).map fun place => (numberedUnit kinds attempt place).identity field) :
    committed.length = 17 ∧ (committed.map fun state => state.document .providerRunId).Nodup ∧
      (committed.map fun state => state.document .artifactId).Nodup ∧
      (committed.map fun state => state.document .artifactName).Nodup ∧
      (committed.map fun state => state.document .artifactProviderDigest).Nodup := by
  have numbers : ((List.range 17).map fun place : ℕ => Json.int (place + 1)).Nodup := by
    refine List.Nodup.map ?_ List.nodup_range
    intro left right same
    have equal := Json.int.inj same
    omega
  have texts (name : ℕ → String) (distinct : ((List.range 17).map name).Nodup) :
      ((List.range 17).map fun place => Json.str (name place)).Nodup := by
    have mapped := distinct.map (f := Json.str) fun left right same => Json.str.inj same
    rw [List.map_map] at mapped
    exact mapped
  refine ⟨?_,?_,?_,?_,?_⟩
  · have size := congrArg List.length (identities .providerRunId (by decide))
    simpa using size
  · rw [identities .providerRunId (by decide)]
    exact numbers
  · rw [identities .artifactId (by decide)]
    exact numbers
  · rw [identities .artifactName (by decide)]
    exact texts numberedName (by decide +kernel)
  · rw [identities .artifactProviderDigest (by decide)]
    exact texts numberedDigest (by decide +kernel)

def numberedAdmissions : List String := (List.range 17).map numberedAdmission

private theorem numberedAdmissions_valid : numberedAdmissions.length = 17 ∧
    (∀ admission ∈ numberedAdmissions, validSha256 admission = true) ∧ numberedAdmissions.Nodup := by
  decide +kernel

def matrixKind (place : ℕ) : String :=
  if place = 0 then "formal-acquisition" else if place < 7 then "formal-native"
  else if place < 13 then "formal-synthetic" else "formal-ordered-event"

private theorem threeSeeds_specs : ∃ specs, followupFormalUnitSpecs threeSeeds = .ok specs ∧
    specs.map FollowupFormalUnitSpec.unitKind = (List.range 17).map matrixKind := by
  refine ⟨_,Checked.pass _ _ _ (Checked.require_true _ _ (by decide +kernel)) rfl,by decide +kernel⟩

/-- A campaign of the seventeen numbered units, with the kinds and the attempt that its reservations name. -/
private theorem numbered_campaign (kinds : ℕ → String) (known : ∀ place < 17, kinds place ∈ campaignUnitKinds)
    (attempt : Json) (first : equalsInt 1 attempt = true) : ∃ opened states last,
      openFollowupCampaignState constantSha plainLineage threeSeeds = .ok opened ∧
      CampaignRun constantSha opened (planLabels (numberedUnit kinds attempt) 17) states last ∧
      DistinctIdentities (committedStates states) numberedAdmissions ∧
      ∀ (place : ℕ) state, (committedStates states)[place]? = some state →
        state.document .unitKind = .str (kinds place) ∧ state.document .unitAttemptOrdinal = attempt := by
  obtain ⟨_,specsOk,_⟩ := threeSeeds_specs
  obtain ⟨opened,made⟩ := open_ok constantSha plainLineage_valid specsOk
  obtain ⟨states,last,run,_,_,_,_,_,identities⟩ := campaign_reaches made (numberedUnit kinds attempt) 17 le_rfl
    (numberedUnit_sound kinds known first)
  obtain ⟨finished,runIds,artifactIds,artifactNames,artifactDigests⟩ := numbered_distinct kinds _ _ identities
  obtain ⟨admitted,receipts,distinct⟩ := numberedAdmissions_valid
  refine ⟨opened,states,last,made,run,⟨finished,admitted,receipts,distinct,runIds,artifactIds,artifactNames,
    artifactDigests⟩,?_⟩
  intro place state here
  have inside : place < 17 := finished ▸ (List.getElem?_eq_some_iff.mp here).1
  have held (field : CampaignField) (member : field ∈ identityFields) :
      state.document field = (numberedUnit kinds attempt place).identity field := by
    have mapped := congrArg (fun values => values[place]?) (identities field member)
    simpa [here,inside] using mapped
  exact ⟨held .unitKind (by decide),held .unitAttemptOrdinal (by decide)⟩

private theorem threeSeeds_kind (place : ℕ) (inside : place < 17) : ∃ specs spec,
    followupFormalUnitSpecs threeSeeds = .ok specs ∧ specs[place]? = some spec ∧
      spec.unitKind = matrixKind place := by
  obtain ⟨specs,specsOk,kinds⟩ := threeSeeds_specs
  have mapped := congrArg (fun kinds => kinds[place]?) kinds
  simp only [List.getElem?_map,List.getElem?_range inside,Option.map_some,Option.map_eq_some_iff] at mapped
  obtain ⟨spec,here,kind⟩ := mapped
  exact ⟨specs,spec,specsOk,here,kind⟩

/-- A campaign over the matrix runs through its seventeen units and is selected. -/
theorem threeSeeds_campaign : ∃ opened labels states last selection,
    openFollowupCampaignState constantSha plainLineage threeSeeds = .ok opened ∧
    CampaignRun constantSha opened labels states last ∧
    CampaignKeeps constantSha threeSeeds opened labels states ∧ labels.length = 68 ∧
    buildFollowupCampaignSelection constantSha (committedStates states) numberedAdmissions threeSeeds =
      .ok selection := by
  obtain ⟨opened,states,last,made,run,distinct,named⟩ := numbered_campaign matrixKind (by decide +kernel)
    (.int 1) rfl
  have keeps := campaign_keeps constantSha plainLineage threeSeeds opened last _ states made run
  have selectable : Selectable threeSeeds (committedStates states) := by
    refine ⟨?_,?_⟩
    · intro place state here
      have inside : place < 17 := distinct.finished ▸ (List.getElem?_eq_some_iff.mp here).1
      obtain ⟨specs,spec,specsOk,known,kind⟩ := threeSeeds_kind place inside
      exact ⟨specs,spec,specsOk,known,kind ▸ (named place state here).1⟩
    · intro state member
      obtain ⟨place,here⟩ := List.getElem?_of_mem member
      exact ⟨1,(named place state here).2⟩
  obtain ⟨selection,built,_⟩ := (keeps.selection numberedAdmissions distinct).mp selectable
  exact ⟨opened,_,states,last,selection,made,run,keeps,by decide,built⟩

/-- Reservations that name a wrong kind are accepted, and so are those that give `True` for the first
attempt; neither campaign is ever selected. -/
theorem mislabelled_campaign_refused :
    (¬ ∀ (sha : Sha256) (lineage : CampaignLineage) (profile : RouteAScientificProfile)
      (opened last : FollowupCampaignState) (labels : List CampaignTransition)
      (states : List FollowupCampaignState) (admissions : List String),
      openFollowupCampaignState sha lineage profile = .ok opened →
      CampaignRun sha opened labels states last → DistinctIdentities (committedStates states) admissions →
      (∀ state ∈ committedStates states, state.document .unitAttemptOrdinal = .int 1) →
      ∃ selection, buildFollowupCampaignSelection sha (committedStates states) admissions profile =
        .ok selection) ∧
    ¬ ∀ (sha : Sha256) (lineage : CampaignLineage) (profile : RouteAScientificProfile)
      (opened last : FollowupCampaignState) (labels : List CampaignTransition)
      (states : List FollowupCampaignState) (admissions : List String),
      openFollowupCampaignState sha lineage profile = .ok opened →
      CampaignRun sha opened labels states last → DistinctIdentities (committedStates states) admissions →
      (∀ (place : ℕ) state, (committedStates states)[place]? = some state →
        ∃ specs spec, followupFormalUnitSpecs profile = .ok specs ∧ specs[place]? = some spec ∧
          state.document .unitKind = .str spec.unitKind) →
      ∃ selection, buildFollowupCampaignSelection sha (committedStates states) admissions profile =
        .ok selection := by
  refine ⟨?_,?_⟩
  · intro claimed
    obtain ⟨opened,states,last,made,run,distinct,named⟩ := numbered_campaign (fun _ => "formal-native")
      (by decide +kernel) (.int 1) rfl
    obtain ⟨selection,built⟩ := claimed constantSha plainLineage threeSeeds opened last _ states
      numberedAdmissions made run distinct (by
        intro state member
        obtain ⟨place,here⟩ := List.getElem?_of_mem member
        exact (named place state here).2)
    obtain ⟨state,rest,shape⟩ := List.exists_cons_of_length_eq_add_one distinct.finished
    have head : (committedStates states)[0]? = some state := by
      rw [shape]
      rfl
    obtain ⟨specs,spec,specsOk,known,kind⟩ := (build_named built).kinds 0 _ head
    obtain ⟨others,other,othersOk,same,first⟩ := threeSeeds_kind 0 (by decide)
    rw [Except.ok.inj (othersOk.symm.trans specsOk),known,Option.some.injEq] at same
    rw [(named 0 _ head).1,same,first] at kind
    exact absurd (Json.str.inj kind) (by decide)
  · intro claimed
    obtain ⟨opened,states,last,made,run,distinct,named⟩ := numbered_campaign matrixKind (by decide +kernel)
      (.bool true) rfl
    obtain ⟨selection,built⟩ := claimed constantSha plainLineage threeSeeds opened last _ states
      numberedAdmissions made run distinct (by
        intro place state here
        have inside : place < 17 := distinct.finished ▸ (List.getElem?_eq_some_iff.mp here).1
        obtain ⟨specs,spec,specsOk,known,kind⟩ := threeSeeds_kind place inside
        exact ⟨specs,spec,specsOk,known,kind ▸ (named place state here).1⟩)
    obtain ⟨state,rest,shape⟩ := List.exists_cons_of_length_eq_add_one distinct.finished
    have head : (committedStates states)[0]? = some state := by
      rw [shape]
      rfl
    obtain ⟨attempt,strict⟩ := (build_named built).attempts _ (List.mem_of_getElem? head)
    rw [(named 0 _ head).2] at strict
    cases strict

end DynamicCssc
