import DynamicCssc.CampaignRuns
import DynamicCssc.Foundation.Loop

/-! The selection over a campaign whose seventeen units are committed. -/
namespace DynamicCssc
open Foundation

private theorem getElem?_not_mem_take {α : Type} {items : List α} (distinct : items.Nodup) {place : ℕ} {item : α}
    (here : items[place]? = some item) : item ∉ items.take place := by
  intro member
  obtain ⟨earlier,bound,same⟩ := List.mem_iff_getElem.mp member
  rw [List.length_take] at bound
  rw [List.getElem_take] at same
  obtain ⟨inside,held⟩ := List.getElem?_eq_some_iff.mp here
  have equal := distinct.getElem_inj_iff.mp (same.trans held.symm)
  omega

section
variable {sha : Sha256} {lineage : CampaignLineage} {profile : RouteAScientificProfile}
  {opened last : FollowupCampaignState} {labels : List CampaignTransition}
  {states : List FollowupCampaignState}

private theorem specs_success {specs : List FollowupFormalUnitSpec}
    (made : followupFormalUnitSpecs profile = .ok specs) : specs.length = 17 ∧
      specs.map FollowupFormalUnitSpec.ordinal = (List.range 17).map fun ordinal : ℕ => (ordinal : ℤ) := by
  rw [followupFormalUnitSpecs,Checked.then_success,Checked.require_success] at made
  obtain ⟨closed,same⟩ := made
  rw [← Except.ok.inj same]
  exact ⟨closed.1,closed.2.1⟩

private theorem spec_ordinal {specs : List FollowupFormalUnitSpec}
    (made : followupFormalUnitSpecs profile = .ok specs) {place : ℕ} {spec : FollowupFormalUnitSpec}
    (here : specs[place]? = some spec) : spec.ordinal = place := by
  obtain ⟨size,ordinals⟩ := specs_success made
  have inside := (List.getElem?_eq_some_iff.mp here).1
  have mapped := congrArg (fun numbers => numbers[place]?) ordinals
  simp only [List.getElem?_map,here,List.getElem?_range (size ▸ inside),Option.map_some,
    Option.some.injEq] at mapped
  exact mapped

/-- What a committed state holds, typed. -/
structure SelectableUnit (attempts : List ℤ) (place : ℕ)
    (state : FollowupCampaignState) (unit : CommittedUnit) : Prop where
  fields : committedFields state.document = some unit
  committed : state.state = some .unitCommitted
  attempt : attempts[place]? = some unit.attempt
  runId : state.document .providerRunId = .int unit.runId
  artifactId : state.document .artifactId = .int unit.artifactId
  artifactName : state.document .artifactName = .str unit.artifactName
  artifactDigest : state.document .artifactProviderDigest = .str unit.artifactDigest
  ordinal : state.document .unitOrdinal = .int place
  providerAttempt : state.document .providerRunAttempt = .int 1
  retryUsed : state.document .retryUsed = .bool (decide (2 ∈ attempts.take (place + 1)))

theorem selectable (made : openFollowupCampaignState sha lineage profile = .ok opened)
    (run : CampaignRun sha opened labels states last) {view : CampaignView}
    (history : CampaignHistory opened labels states last view) (place : ℕ) (state : FollowupCampaignState)
    (here : (committedStates states)[place]? = some state)
    (strict : ∃ attempt, state.document .unitAttemptOrdinal = .int attempt) :
    ∃ unit, SelectableUnit view.attempts place state unit := by
  obtain ⟨member,flag⟩ := List.mem_filter.mp (List.mem_of_getElem? here)
  have committed : state.state = some .unitCommitted := by
    simpa [FollowupCampaignState.isCommitted] using flag
  obtain ⟨spot,found⟩ := List.getElem?_of_mem member
  obtain ⟨first,before,spec,attempt,runId,session,output,_,chain⟩ :=
    committed_chain made run spot state found committed
  obtain ⟨ordinal,counted,retry⟩ := history.units place state here
  obtain ⟨shown,known,named⟩ := counted
  obtain ⟨number,written⟩ := strict
  rw [written] at named
  have same : number = shown := by simpa [equalsInt] using named
  refine ⟨⟨number,runId,output.artifactId,output.artifactName,output.artifactProviderDigest,
    output.unitOutputEnvelope⟩,?_,committed,same ▸ known,chain.providerRun,chain.artifactId,
    chain.artifactName,chain.artifactDigest,ordinal,chain.providerAttempt,retry⟩
  rw [committedFields,written,chain.providerRun,chain.artifactId,chain.artifactName,chain.artifactDigest,
    chain.envelope]

private theorem common_scalar (made : openFollowupCampaignState sha lineage profile = .ok opened)
    (field : CampaignField) (member : field ∈ selectionCommonFields) :
    sameScalar (opened.document field) (opened.document field) = true := by
  obtain ⟨matrix,campaignId,_,document,_⟩ := open_success made
  rw [document]
  revert field
  simp only [selectionCommonFields,List.forall_mem_cons,List.not_mem_nil,false_imp_iff,implies_true,and_true]
  refine ⟨?_,?_,?_,?_,?_,?_,?_,?_⟩ <;> exact beq_self_eq_true _

private theorem common_lineage : ∀ field ∈ selectionCommonFields, field ∈ lineageFields := by
  decide

theorem lineage_kept (made : openFollowupCampaignState sha lineage profile = .ok opened)
    (run : CampaignRun sha opened labels states last) (state : FollowupCampaignState)
    (member : state ∈ states) (field : CampaignField) (kept : field ∈ lineageFields) :
    state.document field = opened.document field := by
  obtain ⟨place,here⟩ := List.getElem?_of_mem member
  obtain ⟨view,history⟩ := campaign_history made (run.upto place state here)
  exact history.lineage field kept

private theorem committed_sequence (made : openFollowupCampaignState sha lineage profile = .ok opened)
    (run : CampaignRun sha opened labels states last) :
    (committedStates states).Pairwise fun left right => ∀ first second,
      left.document .sequence = .int first → right.document .sequence = .int second → first < second := by
  refine List.Pairwise.filter _ (List.pairwise_iff_getElem.mpr ?_)
  intro left right inside within before first second leftIs rightIs
  rw [sequence_place made run left _ (List.getElem?_eq_getElem inside),Json.int.injEq] at leftIs
  rw [sequence_place made run right _ (List.getElem?_eq_getElem within),Json.int.injEq] at rightIs
  omega

/-- What the loop of the selection has gathered from the first committed states. -/
structure Gathered (committed : List FollowupCampaignState) (admissions : List String) (attempts : List ℤ)
    (place : ℕ) (draft : SelectionDraft) : Prop where
  runIds : draft.runIds.map Json.int = (committed.take place).map fun state => state.document .providerRunId
  artifactIds : draft.artifactIds.map Json.int =
    (committed.take place).map fun state => state.document .artifactId
  artifactNames : draft.artifactNames.map Json.str =
    (committed.take place).map fun state => state.document .artifactName
  artifactDigests : draft.artifactDigests.map Json.str =
    (committed.take place).map fun state => state.document .artifactProviderDigest
  admissions : draft.admissions = admissions.take place
  replaced : draft.replacementOrdinal.isSome = decide (2 ∈ attempts.take place)
  sequence : ∀ state, committed[place]? = some state →
    ∀ sequence, state.document .sequence = .int sequence → draft.previousSequence < sequence
  canonical : ∀ unit ∈ draft.units, Json.Canonical unit
  units : List.Forall₂ (fun unit admission => ∃ held, unit = Json.obj held ∧
    selectionAdmission held = .ok admission) draft.units draft.admissions

/-- Seventeen committed units with pairwise distinct identities and as many valid admissions. -/
structure DistinctIdentities (committed : List FollowupCampaignState) (admissions : List String) : Prop where
  finished : committed.length = 17
  admitted : admissions.length = 17
  receipts : ∀ admission ∈ admissions, validSha256 admission = true
  distinct : admissions.Nodup
  runIds : (committed.map fun state => state.document .providerRunId).Nodup
  artifactIds : (committed.map fun state => state.document .artifactId).Nodup
  artifactNames : (committed.map fun state => state.document .artifactName).Nodup
  artifactDigests : (committed.map fun state => state.document .artifactProviderDigest).Nodup

/-- Each committed unit was reserved as a unit of its place in the matrix, and by the number of its
attempt: the transitions take any known kind, and `True` for the first attempt. -/
structure Selectable (profile : RouteAScientificProfile) (committed : List FollowupCampaignState) : Prop where
  kinds : ∀ (place : ℕ) state, committed[place]? = some state →
    ∃ specs spec, followupFormalUnitSpecs profile = .ok specs ∧ specs[place]? = some spec ∧
      state.document .unitKind = .str spec.unitKind
  attempts : ∀ state ∈ committed, ∃ attempt, state.document .unitAttemptOrdinal = .int attempt

private theorem not_gathered {α : Type} {wrap : α → Json} {read : FollowupCampaignState → Json} {committed : List FollowupCampaignState} {place : ℕ}
    {gathered : List α} (so : gathered.map wrap = (committed.take place).map read)
    (distinct : (committed.map read).Nodup) {state : FollowupCampaignState}
    (here : committed[place]? = some state) {value : α} (known : read state = wrap value) :
    value ∉ gathered := by
  have mapped : (committed.map read)[place]? = some (wrap value) := by
    rw [List.getElem?_map,here,Option.map_some,known]
  have absent := getElem?_not_mem_take distinct mapped
  rw [← List.map_take,← so] at absent
  exact fun member => absent (List.mem_map_of_mem member)

private theorem gathered_snoc {α : Type} {wrap : α → Json} {read : FollowupCampaignState → Json}
    {committed : List FollowupCampaignState} {place : ℕ} {gathered : List α}
    (so : gathered.map wrap = (committed.take place).map read) {state : FollowupCampaignState}
    (here : committed[place]? = some state) {value : α} (known : read state = wrap value) :
    (gathered ++ [value]).map wrap = (committed.take (place + 1)).map read := by
  rw [List.map_append,so,List.take_add_one,here,Option.toList_some,List.map_append,List.map_singleton,
    List.map_singleton,known]

theorem replacement_after {attempts : List ℤ} {place : ℕ} {attempt : ℤ} (known : attempts[place]? = some attempt)
    (once : attempts.count 2 ≤ 1) (replaced : Option ℤ)
    (so : replaced.isSome = decide (2 ∈ attempts.take place)) (ordinal : ℤ) :
    ∃ after, replacementAfter replaced attempt ordinal = .ok after ∧
      after.isSome = decide (2 ∈ attempts.take (place + 1)) := by
  have longer : attempts.take (place + 1) = attempts.take place ++ [attempt] := by
    rw [List.take_add_one,known]
    rfl
  rw [longer]
  by_cases second : attempt = 2
  · have rest : (attempts.take place ++ [attempt]).count 2 ≤ 1 :=
      longer ▸ ((List.take_sublist _ _).count_le 2).trans once
    rw [second,List.count_append,List.count_singleton_self] at rest
    have fresh : 2 ∉ attempts.take place := List.count_eq_zero.mp (by omega)
    rw [decide_eq_false fresh] at so
    refine ⟨some ordinal,?_,by simp [second]⟩
    rw [replacementAfter,if_pos second,so]
    rfl
  · refine ⟨replaced,?_,?_⟩
    · rw [replacementAfter,if_neg second]
    · rw [so,decide_eq_decide]
      simp [Ne.symm second]

private theorem selectedFields_canonical (spec : FollowupFormalUnitSpec) (state : FollowupCampaignState)
    (admission : String) (sequence : ℤ) (unit : CommittedUnit) :
    Json.Canonical (.object (selectedFields spec state admission sequence unit)) := by
  refine .object _ ?_ ?_
  · simp [selectedFields]
  · simp [selectedFields,Json.Canonical.int,Json.Canonical.str]

private theorem lookup_sorted {fields : List (String × Json)} (distinct : (fields.map Prod.fst).Nodup)
    {key : String} {value : Json} (member : (key,value) ∈ fields) :
    (Sorting.sortedBy Prod.fst fields).lookup key = some value := by
  have perm := Sorting.sortedBy_perm Prod.fst fields
  have keys := (perm.map Prod.fst).nodup_iff.mpr distinct
  exact (Dict.lookup_eq_some_iff _ keys key value).mpr (perm.mem_iff.mpr member)

private theorem selectedFields_admission (spec : FollowupFormalUnitSpec) (state : FollowupCampaignState)
    (admission : String) (sequence : ℤ) (unit : CommittedUnit) :
    selectionAdmission (Sorting.sortedBy Prod.fst (selectedFields spec state admission sequence unit)) =
      .ok admission := by
  rw [selectionAdmission,lookup_sorted (by simp [selectedFields])
    (show ("campaign_run_admission_sha256",Json.str admission) ∈ _ by simp [selectedFields])]

private theorem selectUnit_ok (made : openFollowupCampaignState sha lineage profile = .ok opened)
    (run : CampaignRun sha opened labels states last) {view : CampaignView}
    (history : CampaignHistory opened labels states last view) {admissions : List String}
    (ready : DistinctIdentities (committedStates states) admissions)
    (named : Selectable profile (committedStates states))
    {specs : List FollowupFormalUnitSpec} (specsOk : followupFormalUnitSpecs profile = .ok specs)
    {matrix : String} (matrixOk : followupFormalMatrixSha256 sha profile = .ok matrix)
    {first : CampaignDocument} (common : ∀ field ∈ selectionCommonFields, first field = opened.document field)
    {place : ℕ} {spec : FollowupFormalUnitSpec} {state : FollowupCampaignState} {admission : String}
    (specHere : specs[place]? = some spec) (here : (committedStates states)[place]? = some state)
    (admissionHere : admissions[place]? = some admission) {draft : SelectionDraft}
    (gathered : Gathered (committedStates states) admissions view.attempts place draft) :
    ∃ next, selectUnit first matrix draft (spec,state,admission) = .ok next ∧
      Gathered (committedStates states) admissions view.attempts (place + 1) next := by
  obtain ⟨unit,held⟩ := selectable made run history place state here
    (named.attempts state (List.mem_of_getElem? here))
  obtain ⟨member,_⟩ := List.mem_filter.mp (List.mem_of_getElem? here)
  obtain ⟨spot,found⟩ := List.getElem?_of_mem member
  have counted := sequence_place made run spot state found
  have ordinal := spec_ordinal specsOk specHere
  have kind : state.document .unitKind = .str spec.unitKind := by
    obtain ⟨others,other,othersOk,otherHere,shown⟩ := named.kinds place state here
    have same : others = specs := Except.ok.inj (othersOk.symm.trans specsOk)
    rw [same,specHere,Option.some.injEq] at otherHere
    rw [shown,otherHere]
  have kept (field : CampaignField) (among : field ∈ selectionCommonFields) :
      state.document field = opened.document field :=
    lineage_kept made run state member field (common_lineage field among)
  have committed : requireCommitted first matrix draft.previousSequence (spot : ℤ) spec state = .ok unit := by
    rw [requireCommitted,held.fields]
    refine if_pos ⟨held.committed,?_,?_,?_,?_,?_,?_,?_⟩
    · rw [held.ordinal,ordinal]
      exact beq_self_eq_true _
    · rw [kind]
      exact beq_self_eq_true _
    · rw [held.providerAttempt]
      rfl
    · obtain ⟨_,_,otherOk,document,_⟩ := open_success made
      rw [kept .formalMatrix (by decide),document,← Except.ok.inj (matrixOk.symm.trans otherOk)]
      exact beq_self_eq_true _
    · intro field among
      rw [kept field among,common field among]
      exact common_scalar made field among
    · exact gathered.sequence state here _ counted
    · simpa using history.valid.domains _ (List.mem_of_getElem? held.attempt)
  obtain ⟨after,replaced,flagged⟩ := replacement_after held.attempt history.valid.once _ gathered.replaced
    spec.ordinal
  have receipt : validSha256 admission = true := ready.receipts _ (List.mem_of_getElem? admissionHere)
  refine ⟨draft.select spec state admission spot unit after,?_,?_⟩
  · rw [selectUnit,requireSha_then]
    refine ⟨receipt,?_⟩
    rw [(sequence_success state _).mpr counted,Checked.ok_bind,committed,Checked.ok_bind,replaced,
      Checked.ok_bind]
    refine Checked.pass _ _ _ (Checked.require_true _ _ ?_) ?_
    · rw [held.retryUsed,flagged]
      exact beq_self_eq_true _
    · refine Checked.pass _ _ _ (Checked.require_true _ _ ⟨?_,?_,?_,?_,?_⟩) rfl
      · exact not_gathered gathered.runIds ready.runIds here held.runId
      · exact not_gathered gathered.artifactIds ready.artifactIds here held.artifactId
      · exact not_gathered gathered.artifactNames ready.artifactNames here held.artifactName
      · exact not_gathered gathered.artifactDigests ready.artifactDigests here held.artifactDigest
      · rw [gathered.admissions]
        exact getElem?_not_mem_take ready.distinct admissionHere
  · refine ⟨gathered_snoc gathered.runIds here held.runId,gathered_snoc gathered.artifactIds here held.artifactId,
      gathered_snoc gathered.artifactNames here held.artifactName,
      gathered_snoc gathered.artifactDigests here held.artifactDigest,?_,flagged,?_,?_,?_⟩
    · dsimp only [SelectionDraft.select]
      rw [gathered.admissions,List.take_add_one,admissionHere]
      rfl
    · intro later there sequence known
      obtain ⟨left,leftIs⟩ := List.getElem?_eq_some_iff.mp here
      obtain ⟨right,rightIs⟩ := List.getElem?_eq_some_iff.mp there
      have ordered := List.pairwise_iff_getElem.mp (committed_sequence made run) place (place + 1) left right
        (by omega)
      rw [leftIs,rightIs] at ordered
      exact ordered _ _ counted known
    · intro document among
      rcases List.mem_append.mp among with old | new
      · exact gathered.canonical document old
      · rw [List.mem_singleton.mp new]
        exact selectedFields_canonical _ _ _ _ _
    · exact List.rel_append gathered.units (.cons ⟨_,rfl,selectedFields_admission _ _ _ _ _⟩ .nil)

theorem reinspected (made : openFollowupCampaignState sha lineage profile = .ok opened)
    (run : CampaignRun sha opened labels states last) (state : FollowupCampaignState)
    (member : state ∈ states) : inspectFollowupCampaignState sha state.documentBytes = .ok state := by
  obtain ⟨place,here⟩ := List.getElem?_of_mem member
  by_cases first : state = opened
  · obtain ⟨_,_,_,_,_,_,inspected⟩ := open_success made
    rw [first]
    exact inspected
  · obtain ⟨before,earlier,label,_,_,_,accepted⟩ := run.predecessor place state here (.inl first)
    exact apply_reinspected accepted

private theorem mapM_back {α β : Type} (f : α → Checked β) (g : β → α) (items : List β)
    (back : ∀ item ∈ items, f (g item) = .ok item) : (items.map g).mapM f = .ok items := by
  induction items with
  | nil => rfl
  | cons item items ih =>
    rw [List.map_cons,List.mapM_cons,back item (by simp),
      ih fun other member => back other (List.mem_cons_of_mem _ member)]
    rfl

private theorem units_read {units : List Json} {admissions : List String}
    (each : List.Forall₂ (fun unit admission => ∃ held, unit = Json.obj held ∧
      selectionAdmission held = .ok admission) units admissions) :
    ∃ fields, units.mapM requireUnit = .ok fields ∧ fields.mapM selectionAdmission = .ok admissions := by
  induction each with
  | nil => exact ⟨[],rfl,rfl⟩
  | cons here rest ih =>
    obtain ⟨held,rfl,read⟩ := here
    obtain ⟨fields,first,second⟩ := ih
    refine ⟨held :: fields,?_,?_⟩
    · rw [List.mapM_cons,requireUnit,first]
      rfl
    · rw [List.mapM_cons,read,second]
      rfl

private theorem selectionFields_canonical {first : CampaignDocument} (canonical : first.Canonical) (matrix : String)
    {draft : SelectionDraft} (units : ∀ unit ∈ draft.units, Json.Canonical unit) :
    Json.Canonical (.object (selectionFields first matrix draft)) := by
  have ordinal : Json.Canonical (orNull .int draft.replacementOrdinal) := by
    cases draft.replacementOrdinal with
    | none => exact .null
    | some ordinal => exact .int ordinal
  refine .object _ (by simp [selectionFields]) ?_
  simp [selectionFields,canonical _,ordinal,Json.Canonical.bool,Json.Canonical.int,Json.Canonical.str,
    Json.Canonical.arr _ units]

def selectionOf (sha : Sha256) (fields : List (String × Json)) : FollowupCampaignSelection :=
  ⟨.object fields,canonicalJsonBytes (.object fields),sha256Bytes sha (canonicalJsonBytes (.object fields))⟩

private theorem selectionOf_bytes (fields : List (String × Json)) :
    (selectionOf sha fields).documentBytes = canonicalJsonBytes (.object fields) := by
  simp only [selectionOf]

private theorem isObject_object (fields : List (String × Json)) : isObject (.object fields) = true := by
  rw [Json.object,isObject]

private theorem build_of_loop {committed rest : List FollowupCampaignState} {head : FollowupCampaignState}
    {admissions : List String} {specs : List FollowupFormalUnitSpec} {matrix : String} {draft : SelectionDraft}
    (finished : committed.length = 17) (admitted : admissions.length = 17)
    (specsOk : followupFormalUnitSpecs profile = .ok specs)
    (matrixOk : followupFormalMatrixSha256 sha profile = .ok matrix) (shape : committed = head :: rest)
    (looped : (specs.zip (committed.zip admissions)).foldlM (selectUnit head.document matrix)
      ⟨[],none,-1,[],[],[],[],[]⟩ = .ok draft) :
    buildFollowupCampaignSelection sha committed admissions profile =
      .ok (selectionOf sha (selectionFields head.document matrix draft)) := by
  have pairs : zipStrict specs (committed.zip admissions) = .ok (specs.zip (committed.zip admissions)) := by
    rw [zipStrict_success]
    refine ⟨?_,rfl⟩
    rw [List.length_zip,(specs_success specsOk).1,finished,admitted,Nat.min_self]
  have first : firstDocument committed = .ok head.document := by
    rw [shape]
    rfl
  rw [buildFollowupCampaignSelection]
  refine Checked.pass _ _ _ (Checked.require_true _ _ ⟨finished,admitted⟩) ?_
  rw [specsOk,Checked.ok_bind,matrixOk,Checked.ok_bind,first,Checked.ok_bind,pairs,Checked.ok_bind,looped]
  rfl

private theorem selectionUnits_read {first : CampaignDocument} {matrix : String} {draft : SelectionDraft}
    {units : List (List (String × Json))} (read : draft.units.mapM requireUnit = .ok units) :
    selectionUnits (.object (selectionFields first matrix draft)) = .ok units := by
  rw [Json.object,selectionUnits,lookup_sorted (by simp [selectionFields])
    (show ("units",Json.arr draft.units) ∈ _ by simp [selectionFields])]
  exact read

private theorem inspect_of_build {committed : List FollowupCampaignState} {admissions : List String}
    {first : CampaignDocument} {matrix : String} {draft : SelectionDraft}
    (inspected : ∀ state ∈ committed, inspectFollowupCampaignState sha state.documentBytes = .ok state)
    (canonical : Json.Canonical (.object (selectionFields first matrix draft)))
    (each : List.Forall₂ (fun unit admission => ∃ held, unit = Json.obj held ∧
      selectionAdmission held = .ok admission) draft.units admissions)
    (built : buildFollowupCampaignSelection sha committed admissions profile =
      .ok (selectionOf sha (selectionFields first matrix draft))) :
    inspectFollowupCampaignSelection sha (selectionOf sha (selectionFields first matrix draft)).documentBytes
      (committed.map FollowupCampaignState.documentBytes) profile =
        .ok (selectionOf sha (selectionFields first matrix draft)) := by
  obtain ⟨units,unitsOk,admissionsOk⟩ := units_read each
  have states := mapM_back (inspectFollowupCampaignState sha) FollowupCampaignState.documentBytes committed
    inspected
  rw [inspectFollowupCampaignSelection,states,Checked.ok_bind,selectionOf_bytes,
    parseAsciiJson_canonical _ canonical,Checked.ok_bind]
  refine Checked.pass _ _ _ (Checked.require_true _ _ ⟨isObject_object _,rfl⟩) ?_
  rw [selectionUnits_read unitsOk,Checked.ok_bind,admissionsOk,Checked.ok_bind,built,Checked.ok_bind]
  exact Checked.pass _ _ _ (Checked.require_true _ _ (selectionOf_bytes _).symm) rfl

/-- A finished campaign with distinct identities is selected, and its selection is inspected back. -/
theorem selection_ok (made : openFollowupCampaignState sha lineage profile = .ok opened)
    (run : CampaignRun sha opened labels states last) {admissions : List String}
    (ready : DistinctIdentities (committedStates states) admissions)
    (named : Selectable profile (committedStates states)) :
    ∃ selection, buildFollowupCampaignSelection sha (committedStates states) admissions profile =
        .ok selection ∧
      inspectFollowupCampaignSelection sha selection.documentBytes
        ((committedStates states).map FollowupCampaignState.documentBytes) profile = .ok selection := by
  obtain ⟨view,history⟩ := campaign_history made run
  obtain ⟨matrix,campaignId,matrixOk,document,canonical,_⟩ := open_success made
  obtain ⟨specs,specsOk,_⟩ : ∃ specs, followupFormalUnitSpecs profile = .ok specs ∧ True := by
    rw [followupFormalMatrixSha256,Checked.bind_success] at matrixOk
    obtain ⟨specs,specsOk,_⟩ := matrixOk
    exact ⟨specs,specsOk,trivial⟩
  have size := (specs_success specsOk).1
  obtain ⟨head,rest,shape⟩ := List.exists_cons_of_length_eq_add_one ready.finished
  have headIn : head ∈ states := by
    have inside : head ∈ committedStates states := by
      rw [shape]
      exact List.mem_cons_self
    exact (List.mem_filter.mp inside).1
  have common (field : CampaignField) (among : field ∈ selectionCommonFields) :
      head.document field = opened.document field :=
    lineage_kept made run head headIn field (common_lineage field among)
  obtain ⟨draft,looped,gathered⟩ := Loop.foldlM_places (selectUnit head.document matrix)
    (specs.zip ((committedStates states).zip admissions))
    (Gathered (committedStates states) admissions view.attempts) (by
      intro place item draft here gathered
      obtain ⟨spec,state,admission⟩ := item
      rw [List.getElem?_zip_eq_some,List.getElem?_zip_eq_some] at here
      exact selectUnit_ok made run history ready named specsOk matrixOk common here.1 here.2.1 here.2.2
        gathered)
    ⟨[],none,-1,[],[],[],[],[]⟩ (by
      refine ⟨rfl,rfl,rfl,rfl,rfl,rfl,?_,by simp,.nil⟩
      intro state here sequence known
      obtain ⟨member,_⟩ := List.mem_filter.mp (List.mem_of_getElem? here)
      obtain ⟨spot,found⟩ := List.getElem?_of_mem member
      have counted := sequence_place made run spot state found
      rw [known,Json.int.injEq] at counted
      show (-1 : ℤ) < sequence
      omega)
  have bytes : Json.Canonical (.object (selectionFields head.document matrix draft)) := by
    obtain ⟨place,here⟩ := List.getElem?_of_mem headIn
    obtain ⟨_,before⟩ := campaign_history made (run.upto place head here)
    exact selectionFields_canonical before.canonical matrix gathered.canonical
  have all : draft.admissions = admissions := by
    rw [gathered.admissions,List.length_zip,List.length_zip,size,ready.finished,ready.admitted]
    exact List.take_of_length_le ready.admitted.le
  have built := build_of_loop ready.finished ready.admitted specsOk matrixOk shape looped
  have each := gathered.units
  rw [all] at each
  exact ⟨_,built,inspect_of_build
    (fun state member => reinspected made run state (List.mem_filter.mp member).1) bytes each built⟩

private theorem selectUnit_named {first : CampaignDocument} {matrix : String} {draft next : SelectionDraft}
    {spec : FollowupFormalUnitSpec} {state : FollowupCampaignState} {admission : String}
    (stepped : selectUnit first matrix draft (spec,state,admission) = .ok next) :
    state.document .unitKind = .str spec.unitKind ∧
      ∃ attempt, state.document .unitAttemptOrdinal = .int attempt := by
  rw [selectUnit,requireSha_then,Checked.bind_success] at stepped
  obtain ⟨_,sequence,_,stepped⟩ := stepped
  rw [Checked.bind_success] at stepped
  obtain ⟨unit,committed,_⟩ := stepped
  rw [requireCommitted] at committed
  split at committed
  · cases committed
  rename_i held fields
  split at committed
  · rename_i passed
    refine ⟨?_,?_⟩
    · have kind := passed.2.2.1
      revert kind
      cases state.document .unitKind <;> simp [equalsText]
    · rw [committedFields] at fields
      split at fields
      · rename_i attempt _ _ _ _ _ known _ _ _ _ _
        exact ⟨attempt,known⟩
      · cases fields
  · cases committed

theorem build_named {committed : List FollowupCampaignState} {admissions : List String}
    {selection : FollowupCampaignSelection}
    (built : buildFollowupCampaignSelection sha committed admissions profile = .ok selection) :
    Selectable profile committed := by
  rw [buildFollowupCampaignSelection,Checked.then_success,Checked.require_success] at built
  obtain ⟨⟨finished,admitted⟩,built⟩ := built
  obtain ⟨specs,specsOk,built⟩ := (Checked.bind_success _ _ _).mp built
  obtain ⟨matrix,_,built⟩ := (Checked.bind_success _ _ _).mp built
  obtain ⟨document,_,built⟩ := (Checked.bind_success _ _ _).mp built
  obtain ⟨entries,paired,built⟩ := (Checked.bind_success _ _ _).mp built
  obtain ⟨draft,looped,_⟩ := (Checked.bind_success _ _ _).mp built
  have size := (specs_success specsOk).1
  have pairs := ((zipStrict_success _ _ _).mp paired).2
  have each (place : ℕ) (state : FollowupCampaignState) (here : committed[place]? = some state) :
      ∃ spec, specs[place]? = some spec ∧ state.document .unitKind = .str spec.unitKind ∧
        ∃ attempt, state.document .unitAttemptOrdinal = .int attempt := by
    have inside := (List.getElem?_eq_some_iff.mp here).1
    have specHere : specs[place]? = some specs[place] := List.getElem?_eq_getElem (by omega)
    have admissionHere : admissions[place]? = some admissions[place] := List.getElem?_eq_getElem (by omega)
    have entry : entries[place]? = some (specs[place],state,admissions[place]) := by
      rw [pairs,List.getElem?_zip_eq_some,List.getElem?_zip_eq_some]
      exact ⟨specHere,here,admissionHere⟩
    obtain ⟨before,after,stepped⟩ := Loop.foldlM_taken _ _ _ _ looped _ (List.mem_of_getElem? entry)
    exact ⟨_,specHere,selectUnit_named stepped⟩
  refine ⟨?_,?_⟩
  · intro place state here
    obtain ⟨spec,known,kind,_⟩ := each place state here
    exact ⟨specs,spec,specsOk,known,kind⟩
  · intro state member
    obtain ⟨place,here⟩ := List.getElem?_of_mem member
    obtain ⟨_,_,_,strict⟩ := each place state here
    exact strict

end
end DynamicCssc
