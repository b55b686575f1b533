import DynamicCssc.QueryCorrect
import DynamicCssc.RawReading

/-! The compiler takes accepted sources exactly when the numbers it maps are of the class `int`, and then
the product is reconstructed. -/
namespace DynamicCssc.Raw
open Foundation CloudProgram PlaintextOracle

/-! The plan of the components. -/

def OutputShare.read (share : OutputShare) : DynamicCssc.OutputShare :=
  ⟨share.componentId,share.outputBlockId,share.slotToLogical.map fun entry => (entry.1.whole.toNat,entry.2.whole)⟩

def OutputPlan.read (plan : OutputPlan) : DynamicCssc.OutputPlan :=
  ⟨plan.logicalOutputSize,plan.slotCount,plan.shares.map OutputShare.read⟩

private theorem activeRowMap_success (block : OutputBlockLayout) (rows : List PyNumber) :
    block.activeRowMap = .ok rows ↔
      block.rowMap.length = block.physicalRowCapacities.length ∧ rows = block.activeRows := by
  simp only [OutputBlockLayout.activeRowMap,Checked.bind_success,zipStrict_success,pure,Except.pure,
    Except.ok.injEq]
  constructor
  · rintro ⟨_,⟨long,rfl⟩,rfl⟩
    exact ⟨long,rfl⟩
  · rintro ⟨long,rfl⟩
    exact ⟨_,⟨long,rfl⟩,rfl⟩

private theorem zipStrict_read (rows : List PyNumber) (capacities : List ℕ) :
    (zipStrict rows capacities).map (List.map (Prod.map PyNumber.whole id)) =
      zipStrict (rows.map PyNumber.whole) capacities := by
  rw [zipStrict,zipStrict,List.length_map,List.zip_map_left]
  unfold Checked.require
  split
  · split <;> rfl
  · rfl

private theorem activeRowMap_read (block : OutputBlockLayout) :
    block.activeRowMap.map (List.map PyNumber.whole) = block.read.activeRowMap := by
  rw [DynamicCssc.OutputBlockLayout.activeRowMap,show block.read.rowMap = block.rowMap.map PyNumber.whole from rfl,
    show block.read.physicalRowCapacities = block.physicalRowCapacities from rfl,← zipStrict_read,
    OutputBlockLayout.activeRowMap]
  cases zipStrict block.rowMap block.physicalRowCapacities with
  | error failure => rfl
  | ok pairs =>
    refine congrArg Except.ok ?_
    rw [List.filter_map,List.map_map,List.map_map]
    rfl

/-- The share that `output_plan_for` makes of a block, if any. -/
def blockShares (component : PublishedComponent) (block : OutputBlockLayout) : List OutputShare :=
  if block.chunks = [] ∨ block.activeRows = [] then []
  else [⟨component.componentId,block.outputBlockId,
    block.activeRows.zipIdx.map fun entry => (.int entry.2,entry.1)⟩]

private theorem outputShares_read (component : PublishedComponent) (shares : List OutputShare)
    (block : OutputBlockLayout) : (outputShares component shares block).map (List.map OutputShare.read) =
      DynamicCssc.outputShares component.read (shares.map OutputShare.read) block.read := by
  have rows := activeRowMap_read block
  rw [outputShares,DynamicCssc.outputShares]
  by_cases empty : block.chunks = []
  · rw [if_pos empty,if_pos (by rw [OutputBlockLayout.read,empty]; rfl)]
    rfl
  · rw [if_neg empty,if_neg (by simpa [OutputBlockLayout.read] using empty),← rows]
    cases block.activeRowMap with
    | error failure => rfl
    | ok active =>
      show Except.map _ (ite _ _ _) = ite _ _ _
      by_cases none : active = []
      · rw [if_pos none,if_pos (by rw [none]; rfl)]
        rfl
      · rw [if_neg none,if_neg (by simpa using none)]
        refine congrArg Except.ok ?_
        rw [List.map_append,List.zipIdx_map,List.map_map]
        simp [OutputShare.read,PublishedComponent.read,OutputBlockLayout.read,Function.comp_def]

private theorem blocks_read (shares : List OutputShare) (component : PublishedComponent) :
    (component.blocks.foldlM (outputShares component) shares).map (List.map OutputShare.read) =
      component.read.blocks.foldlM (DynamicCssc.outputShares component.read) (shares.map OutputShare.read) :=
  Checked.foldlM_map _ OutputBlockLayout.read _ _ (outputShares_read component) _ _

private theorem outputPlanFor_read (components : List PublishedComponent) (plan : DynamicCssc.OutputPlan)
    (planned : DynamicCssc.outputPlanFor (components.map PublishedComponent.read) = .ok plan) :
    ∃ raw, outputPlanFor components = .ok raw ∧ raw.read = plan := by
  cases components with
  | nil => cases planned
  | cons reference others =>
    rw [List.map_cons,DynamicCssc.outputPlanFor,Checked.then_success,Checked.bind_success,← List.map_cons]
      at planned
    obtain ⟨checks,shares,run,same⟩ := planned
    rw [← Except.ok.inj same]
    obtain ⟨raw,built,rfl⟩ := Checked.ok_of_map ((Checked.foldlM_map (List.map OutputShare.read)
      PublishedComponent.read _ _ blocks_read (reference :: others) []).trans run)
    refine ⟨_,Checked.pass _ _ _ ?_ ((Checked.bind_success _ _ _).mpr ⟨raw,built,rfl⟩),rfl⟩
    simp only [Checked.eachDistinct_success,Checked.then_success,Checked.require_success,List.forall_mem_map,
      List.map_map] at checks ⊢
    exact checks

/-! What the shares map. -/

private theorem outputShares_success (component : PublishedComponent) (shares : List OutputShare)
    (block : OutputBlockLayout) (next : List OutputShare) : outputShares component shares block = .ok next ↔
      (block.chunks ≠ [] → block.rowMap.length = block.physicalRowCapacities.length) ∧
        next = shares ++ blockShares component block := by
  rw [outputShares]
  by_cases empty : block.chunks = []
  · rw [if_pos empty,blockShares,if_pos (.inl empty),List.append_nil]
    exact ⟨fun same => ⟨fun some => absurd empty some,(Except.ok.inj same).symm⟩,fun both => both.2 ▸ rfl⟩
  · rw [if_neg empty,Checked.bind_success]
    simp only [activeRowMap_success]
    constructor
    · rintro ⟨_,⟨long,rfl⟩,made⟩
      refine ⟨fun _ => long,?_⟩
      split at made
      · rename_i none
        rw [blockShares,if_pos (.inr none),List.append_nil]
        exact (Except.ok.inj made).symm
      · rename_i some
        rw [blockShares,if_neg (not_or.mpr ⟨empty,some⟩)]
        exact (Except.ok.inj made).symm
    · rintro ⟨long,rfl⟩
      refine ⟨_,⟨long empty,rfl⟩,?_⟩
      split
      · rename_i none
        rw [blockShares,if_pos (.inr none),List.append_nil]
        rfl
      · rename_i some
        rw [blockShares,if_neg (not_or.mpr ⟨empty,some⟩)]
        rfl

private theorem outputPlanFor_shares (components : List PublishedComponent) (plan : OutputPlan)
    (planned : outputPlanFor components = .ok plan) : plan.shares =
      components.flatMap fun component => component.blocks.flatMap (blockShares component) := by
  cases components with
  | nil => cases planned
  | cons reference others =>
    rw [outputPlanFor,Checked.then_success,Checked.bind_success] at planned
    obtain ⟨_,shares,run,same⟩ := planned
    have each := fun (shares : List OutputShare) (component : PublishedComponent) (next : List OutputShare) =>
      Checked.foldlM_success (outputShares component) _ _ (outputShares_success component) component.blocks
        shares next
    rw [Checked.foldlM_success _ _ _ each] at run
    rw [← Except.ok.inj same,run.2]
    simp only [List.foldl_append_eq_append,List.nil_append,List.flatMap_def]

private theorem blockShares_row (component : PublishedComponent) (block : OutputBlockLayout) (filled : block.chunks ≠ [])
    (row : PyNumber) (active : row ∈ block.activeRows) :
    ∃ share ∈ blockShares component block, ∃ slot, (slot,row) ∈ share.slotToLogical := by
  rw [blockShares,if_neg (not_or.mpr ⟨filled,List.ne_nil_of_mem active⟩)]
  obtain ⟨place,found⟩ := List.mem_iff_getElem?.mp active
  exact ⟨_,List.mem_singleton_self _,.int place,
    List.mem_map.mpr ⟨(row,place),List.mk_mem_zipIdx_iff_getElem?.mpr found,rfl⟩⟩

private theorem blockShares_mapped (component : PublishedComponent) (block : OutputBlockLayout) (share : OutputShare)
    (listed : share ∈ blockShares component block) (entry : PyNumber × PyNumber)
    (mapped : entry ∈ share.slotToLogical) :
    (entry.1.isStrictInt = true ∧ 0 ≤ entry.1.value) ∧ block.chunks ≠ [] ∧ entry.2 ∈ block.activeRows := by
  rw [blockShares] at listed
  split at listed
  · cases listed
  · rename_i some
    rw [List.mem_singleton] at listed
    subst listed
    obtain ⟨⟨row,place⟩,found,rfl⟩ := List.mem_map.mp mapped
    exact ⟨⟨rfl,Int.cast_nonneg (Int.natCast_nonneg _)⟩,(not_or.mp some).1,
      List.mem_of_getElem? (List.mk_mem_zipIdx_iff_getElem?.mp found)⟩

/-! The shares of the delta. -/
namespace SegmentedDeltaState

private theorem pageId_ok (pageOrdinal : PyNumber) (id : String) :
    pageId pageOrdinal = .ok id ↔ pageOrdinal.isFloat = false ∧ id = strongPageId pageOrdinal.whole.toNat := by
  cases pageOrdinal with
  | float value => exact ⟨(nomatch ·),fun both => nomatch both.1⟩
  | int value => exact ⟨fun same => ⟨rfl,(Except.ok.inj same).symm⟩,fun both => both.2 ▸ rfl⟩
  | bool value => exact ⟨fun same => ⟨rfl,(Except.ok.inj same).symm⟩,fun both => both.2 ▸ rfl⟩

private theorem pageIndex_success (segment : StrongSegment) (done : Unit) :
    pageIndex segment = .ok done ↔ segment.pageOrdinal.isFloat = false := by
  rw [pageIndex]
  cases segment.pageOrdinal with
  | float value => exact ⟨(nomatch ·),(nomatch ·)⟩
  | int value => exact ⟨fun _ => rfl,fun _ => rfl⟩
  | bool value => exact ⟨fun _ => rfl,fun _ => rfl⟩

variable (state : SegmentedDeltaState)

def allocated (page : ℕ) : List StrongSegment :=
  state.segments.filter fun segment => segment.pageOrdinal.whole.toNat = page

def pageOf (page : ℕ) : OutputShare :=
  ⟨strongComponentId,strongPageId page,
    (state.allocated page).map fun segment => (segment.slotStart,segment.ownerRow)⟩

private theorem pageShare_ok (floats : ∀ segment ∈ state.segments, segment.pageOrdinal.isFloat = false)
    (page : ℕ) : state.pageShare page = .ok (state.pageOf page) := by
  have named : pageId (((state.allocated page).head?.map StrongSegment.pageOrdinal).getD (.int page)) =
      .ok (strongPageId page) := by
    rw [pageId_ok]
    cases first : (state.allocated page).head? with
    | none => exact ⟨rfl,rfl⟩
    | some segment =>
      obtain ⟨listed,here⟩ := List.mem_filter.mp (List.mem_of_mem_head? first)
      exact ⟨floats segment listed,by rw [Option.map_some,Option.getD_some,of_decide_eq_true here]⟩
  rw [pageShare]
  exact (Checked.bind_success _ _ _).mpr ⟨_,named,rfl⟩

def pages : List OutputShare :=
  (Sorting.sortedSet id (state.segments.map fun segment => segment.pageOrdinal.whole.toNat)).map state.pageOf

private theorem postAggregationOutputShares_ok
    (floats : ∀ segment ∈ state.segments, segment.pageOrdinal.isFloat = false)
    (passed : assertStateInvariants state = .ok ()) : state.postAggregationOutputShares = .ok state.pages :=
  Checked.pass _ _ _ passed (Checked.mapM_total _ _ _ fun page _ => state.pageShare_ok floats page)

private theorem pages_read (valid : state.read.Valid) :
    state.read.postAggregationOutputShares = .ok (state.pages.map OutputShare.read) := by
  refine Checked.pass _ _ _ ((DynamicCssc.SegmentedDeltaState.assertStateInvariants_success _ ()).mpr valid) ?_
  refine congrArg Except.ok ?_
  rw [pages,List.map_map,show state.read.segments = state.segments.map StrongSegment.read from rfl,List.map_map]
  refine List.map_congr_left fun page _ => ?_
  rw [List.filter_map,List.map_map,Function.comp_apply,pageOf,OutputShare.read,List.map_map]
  rfl

private theorem pages_mapped (share : OutputShare) (listed : share ∈ state.pages) (entry : PyNumber × PyNumber)
    (mapped : entry ∈ share.slotToLogical) :
    ∃ segment ∈ state.segments, (segment.slotStart,segment.ownerRow) = entry := by
  obtain ⟨page,_,rfl⟩ := List.mem_map.mp listed
  obtain ⟨segment,inside,same⟩ := List.mem_map.mp mapped
  exact ⟨segment,(List.mem_filter.mp inside).1,same⟩

private theorem start_nonneg (passed : assertStateInvariants state = .ok ()) (segment : StrongSegment)
    (listed : segment ∈ state.segments) : 0 ≤ segment.slotStart.value := by
  simp only [assertStateInvariants,assertSegment,Checked.then_success,Checked.require_success,
    Checked.each_success] at passed
  obtain ⟨ordinal,found⟩ := List.mem_iff_getElem?.mp listed
  obtain ⟨_,_,start,_⟩ := passed.2.2.2.1 (segment,ordinal) (List.mk_mem_zipIdx_iff_getElem?.mpr found)
  rw [start]
  exact Nat.cast_nonneg _

private theorem postAggregationOutputShares_covers (shares : List OutputShare)
    (made : state.postAggregationOutputShares = .ok shares) (segment : StrongSegment)
    (listed : segment ∈ state.segments) :
    ∃ share ∈ shares, (segment.slotStart,segment.ownerRow) ∈ share.slotToLogical := by
  rw [postAggregationOutputShares,Checked.then_success] at made
  obtain ⟨share,inside,shared⟩ := Checked.mapM_covers made.2 segment.pageOrdinal.whole.toNat
    ((Sorting.mem_sortedSet _ _ _).mpr (List.mem_map_of_mem listed))
  rw [pageShare,Checked.bind_success] at shared
  obtain ⟨_,_,same⟩ := shared
  refine ⟨share,inside,?_⟩
  rw [← Except.ok.inj same]
  exact List.mem_map_of_mem (List.mem_filter.mpr ⟨listed,decide_eq_true rfl⟩)

end SegmentedDeltaState

/-! The validation of the plan. -/
namespace OutputPlan

variable (plan : OutputPlan)

/-- Every mapped number is of the class `int`. -/
def Strict : Prop := ∀ share ∈ plan.shares, ∀ entry ∈ share.slotToLogical,
  (entry.1.isStrictInt = true ∧ 0 ≤ entry.1.value) ∧ entry.2.isStrictInt = true

private theorem validate_strict (passed : plan.validate = .ok ()) : plan.Strict := by
  simp only [validate,validateMapping,Checked.then_success,Checked.require_success,Checked.eachDistinct_success]
    at passed
  intro share listed entry mapped
  obtain ⟨slot,logical⟩ := (passed.2.2.2 share listed).2.2.2 entry mapped
  exact ⟨⟨slot.1,slot.2.1⟩,logical.1⟩

theorem validate_ok (strict : plan.Strict) (valid : plan.read.Valid) : plan.validate = .ok () := by
  have listed : ∀ share ∈ plan.shares, share.read ∈ plan.read.shares := fun share inside =>
    List.mem_map_of_mem inside
  simp only [validate,validateMapping,Checked.then_success,Checked.require_success,
    Checked.eachDistinct_success,requireId_success]
  refine ⟨valid.size_pos,valid.slots_pos,?_,?_⟩
  · have distinct := valid.identities
    rw [show plan.read.shares = plan.shares.map OutputShare.read from rfl,List.map_map] at distinct
    refine List.Nodup.of_map toLex ?_
    rw [List.map_map]
    exact distinct
  · intro share inside
    have kept := listed share inside
    refine ⟨valid.ids _ kept,?_,?_,?_⟩
    · intro empty
      exact valid.nonempty _ kept (by rw [OutputShare.read,empty]; rfl)
    · have distinct := valid.slots_nodup _ kept
      rw [OutputShare.read,List.map_map] at distinct
      refine List.Nodup.of_map (fun value : ℚ => ⌊value⌋.toNat) ?_
      rw [List.map_map]
      exact distinct
    · intro entry mapped
      obtain ⟨⟨slot,positive⟩,logical⟩ := strict share inside entry mapped
      have there := List.mem_map_of_mem (f := fun entry : PyNumber × PyNumber =>
        (entry.1.whole.toNat,entry.2.whole)) mapped
      have below := valid.slot_lt _ kept _ there
      have range := valid.logical_range _ kept _ there
      rw [PyNumber.value_whole slot] at positive ⊢
      rw [PyNumber.value_whole logical]
      have natural : 0 ≤ entry.1.whole := by exact_mod_cast positive
      have bound : entry.1.whole < plan.slotCount := (Int.toNat_lt natural).mp below
      exact ⟨⟨slot,positive,by exact_mod_cast bound⟩,logical,by exact_mod_cast range.1,
        by exact_mod_cast range.2⟩

end OutputPlan

/-! All sources. -/

variable {arguments sources : QuerySources}

private theorem validatedSources_same (passed : validatedSources arguments = .ok sources) :
    sources.components = Sorting.sortedBy PublishedComponent.componentId arguments.components ∧
      sources.segmentedDelta = arguments.segmentedDelta ∧
      (sources.segmentedDelta = none ∨ sources.clientLaneSegments = []) ∧
      ∀ delta ∈ sources.segmentedDelta, delta.assertStateInvariants = .ok () := by
  rw [validatedSources,Checked.then_success,Checked.then_success] at passed
  obtain ⟨present,exclusive,passed⟩ := passed
  rw [Checked.then_success,Checked.then_success] at passed
  obtain ⟨_,_,passed⟩ := passed
  rw [Checked.require_success] at exclusive
  generalize listed : Sorting.sortedBy PublishedComponent.componentId arguments.components = components at passed
  cases components with
  | nil => cases passed
  | cons reference others =>
    rw [Checked.then_success,Checked.then_success,Checked.bind_success] at passed
    obtain ⟨_,_,coordinates,_,passed⟩ := passed
    rw [Checked.then_success,Checked.then_success,Checked.then_success,Checked.bind_success] at passed
    obtain ⟨source,_,_,_,_,built⟩ := passed
    rw [← Except.ok.inj built]
    refine ⟨rfl,rfl,?_,?_⟩
    · rcases exclusive with none | empty
      · exact .inl none
      · right
        show Sorting.sortedBy PackedCOOSegment.segmentId arguments.clientLaneSegments = []
        rw [empty]
        rfl
    · intro delta there
      rw [show arguments.segmentedDelta = some delta from there,validateDeltaSource,validateDelta] at source
      split at source
      · cases source
      · rename_i decoded read
        rw [SegmentedDeltaState.decode,Checked.then_success] at read
        exact read.1

private theorem laneShare_read (segment : PackedCOOSegment) : (laneShare segment).read = segment.outputShare := by
  rw [laneShare,OutputShare.read,List.map_map,PackedCOOSegment.outputShare]
  refine congrArg _ (List.map_congr_left fun entry _ => ?_)
  simp only [Function.comp_apply,PyNumber.whole_int,Int.toNat_natCast]

private theorem extraShares_ok (passed : validatedSources arguments = .ok sources) (strict : arguments.Strict) :
    ∃ shares, extraShares sources = .ok shares ∧
      DynamicCssc.extraShares sources.read = .ok (shares.map OutputShare.read) ∧
      ∀ share ∈ shares, ∀ entry ∈ share.slotToLogical,
        (entry.1.isStrictInt = true ∧ 0 ≤ entry.1.value) ∧ entry.2.isStrictInt = true := by
  obtain ⟨_,delta,_,invariants⟩ := validatedSources_same passed
  rw [extraShares,DynamicCssc.extraShares]
  cases present : sources.segmentedDelta with
  | none =>
    rw [show sources.read.segmentedDelta = none by rw [QuerySources.read,present]; rfl]
    refine ⟨_,rfl,?_,?_⟩
    · rw [List.map_map]
      exact congrArg Except.ok (List.map_congr_left fun segment _ => (laneShare_read segment).symm)
    · intro share listed entry mapped
      obtain ⟨segment,_,rfl⟩ := List.mem_map.mp listed
      obtain ⟨active,_,rfl⟩ := List.mem_map.mp mapped
      exact ⟨⟨rfl,Int.cast_nonneg (Int.natCast_nonneg _)⟩,rfl⟩
  | some state =>
    rw [show sources.read.segmentedDelta = some state.read by rw [QuerySources.read,present]; rfl]
    have given := delta.symm.trans present
    have standing := invariants state present
    have valid := state.read_valid (strict.owners state given) standing
    refine ⟨state.pages,state.postAggregationOutputShares_ok (strict.pages state given) standing,
      state.pages_read valid,?_⟩
    intro share listed entry mapped
    obtain ⟨segment,inside,rfl⟩ := state.pages_mapped share listed entry mapped
    exact ⟨⟨strict.starts state given segment inside,state.start_nonneg standing segment inside⟩,
      strict.owners state given segment inside⟩

/-- Accepted sources whose numbers fit are compiled like their values. -/
theorem compileQuery_read (sha : Sha256) (passed : validatedSources arguments = .ok sources)
    (strict : arguments.Strict) : compileQuery sha arguments = DynamicCssc.compileQuery sha arguments.read := by
  have typed := validatedSources_read arguments sources strict.owners passed
  obtain ⟨reference,accepted⟩ := DynamicCssc.validatedSources_read _ _ typed
  obtain ⟨sorted,delta,_,_⟩ := validatedSources_same passed
  obtain ⟨planned,extra⟩ := accepted.plan
  obtain ⟨base,made,read⟩ := outputPlanFor_read sources.components _ planned
  obtain ⟨shares,shared,same,mapped⟩ := extraShares_ok passed strict
  rw [same] at extra
  have whole : OutputPlan.read { base with shares := base.shares ++ shares } =
      ⟨reference.layoutSpec.rows,reference.layoutSpec.effectiveSlots,
        (sourcePieces reference.layoutSpec.effectiveSlots sources.read).map Piece.share⟩ := by
    rw [sourcePieces,List.append_assoc,List.map_append,← Except.ok.inj extra]
    simp only [OutputPlan.read,DynamicCssc.OutputPlan.mk.injEq] at read
    simp only [OutputPlan.read,List.map_append,read]
  have fits : OutputPlan.validate { base with shares := base.shares ++ shares } = .ok () := by
    refine OutputPlan.validate_ok _ ?_ (whole ▸ accepted.plan_valid)
    intro share listed entry inside
    rcases List.mem_append.mp listed with first | later
    · rw [outputPlanFor_shares _ _ made,sorted] at first
      obtain ⟨component,inSources,there⟩ := List.mem_flatMap.mp first
      obtain ⟨block,inBlocks,here⟩ := List.mem_flatMap.mp there
      obtain ⟨slot,filled,active⟩ := blockShares_mapped component block share here entry inside
      exact ⟨slot,strict.rows component ((Sorting.mem_sortedBy _ _ _).mp inSources) block inBlocks filled _ active⟩
    · exact mapped share later entry inside
  rw [compileQuery,passed,Checked.ok_bind,made,Checked.ok_bind,shared,Checked.ok_bind,fits,Checked.ok_bind]
  have indexed : Checked.each SegmentedDeltaState.pageIndex
      (sources.segmentedDelta.toList.flatMap SegmentedDeltaState.segments) = .ok () := by
    rw [Checked.each_success]
    intro segment listed
    obtain ⟨state,present,inside⟩ := List.mem_flatMap.mp listed
    rw [Option.mem_toList,delta] at present
    exact (SegmentedDeltaState.pageIndex_success segment ()).mpr (strict.pages state present segment inside)
  rw [indexed,Checked.ok_bind]

private theorem compileQuery_strict (sha : Sha256) (passed : validatedSources arguments = .ok sources)
    (compiled : CompiledQuery) (run : compileQuery sha arguments = .ok compiled) : arguments.Strict := by
  obtain ⟨sorted,delta,_,_⟩ := validatedSources_same passed
  rw [compileQuery,passed,Checked.ok_bind,Checked.bind_success] at run
  obtain ⟨base,made,run⟩ := run
  rw [Checked.bind_success] at run
  obtain ⟨shares,shared,run⟩ := run
  rw [Checked.then_success,Checked.then_success] at run
  obtain ⟨fits,indexed,_⟩ := run
  have strict := OutputPlan.validate_strict _ fits
  have owned : ∀ state ∈ arguments.segmentedDelta, ∀ segment ∈ state.segments,
      segment.slotStart.isStrictInt = true ∧ segment.ownerRow.isStrictInt = true := by
    intro state present segment inside
    rw [extraShares,delta,show arguments.segmentedDelta = some state from present] at shared
    obtain ⟨share,listed,mapped⟩ := state.postAggregationOutputShares_covers shares shared segment inside
    obtain ⟨⟨start,_⟩,owner⟩ := strict share (List.mem_append_right _ listed) _ mapped
    exact ⟨start,owner⟩
  constructor
  · intro component inSources block inBlocks filled row active
    obtain ⟨share,listed,slot,mapped⟩ := blockShares_row component block filled row active
    have there : share ∈ base.shares := by
      rw [outputPlanFor_shares _ _ made,sorted]
      exact List.mem_flatMap.mpr ⟨component,(Sorting.mem_sortedBy _ _ _).mpr inSources,
        List.mem_flatMap.mpr ⟨block,inBlocks,listed⟩⟩
    exact (strict share (List.mem_append_left _ there) _ mapped).2
  · exact fun state present segment inside => (owned state present segment inside).1
  · exact fun state present segment inside => (owned state present segment inside).2
  · intro state present segment inside
    rw [Checked.each_success] at indexed
    refine (SegmentedDeltaState.pageIndex_success segment ()).mp (indexed segment ?_)
    rw [delta]
    exact List.mem_flatMap.mpr ⟨state,Option.mem_toList.mpr present,inside⟩

/-- Accepted sources compile, and whoever runs the compiled plan on the stored lanes, the gathered vector
and cancelling masks reconstructs the direct product of all decoded entries with the vector, exactly when
the mapped numbers of the sources are of the class `int`. -/
theorem accepted_query_computes_spmv (sha : Sha256) (arguments sources : QuerySources)
    (passed : validatedSources arguments = .ok sources) :
    (∃ compiled reference, compileQuery sha arguments = .ok compiled ∧
      sources.read.components.head? = some reference ∧ (sources.read.decoded.map Prod.fst).Nodup ∧
      ∀ (modulus : ℕ) (dense : List ℤ) (masks : ShareIdentity → List ℤ) (inputs : Vectors),
        2 ≤ modulus → dense.length = reference.layoutSpec.cols → MaskFamily compiled modulus masks →
        Operands compiled dense masks inputs →
        ∃ results shares output, executeValidatedCloudPlan compiled.cloudPlan inputs
            (committedMasks compiled.cloudPlan.program) modulus = .ok results ∧
          routeShares compiled.resultRoutes results = .ok shares ∧
          reconstructOutput sha compiled.outputPlan shares modulus = .ok output ∧
          directSpmv sources.read.decoded dense reference.layoutSpec.rows reference.layoutSpec.cols modulus =
            .ok output ∧
          output = (List.range reference.layoutSpec.rows).map fun row : ℕ =>
            (sources.read.decoded.map fun entry =>
              if entry.1.row = (row : ℤ) then entry.2 * dense.getD entry.1.col.toNat 0 else 0).sum % modulus) ↔
      arguments.Strict := by
  constructor
  · rintro ⟨compiled,_,run,_⟩
    exact compileQuery_strict sha passed compiled run
  · intro strict
    have typed := validatedSources_read arguments sources strict.owners passed
    rw [compileQuery_read sha passed strict]
    exact compiled_query_computes_spmv sha arguments.read sources.read typed

/-- One entry in a row of its own component, with the row map's zero as some number or other. -/
def oneEntry (componentId : String) (column value : ℤ) (zero : PyNumber) : PublishedComponent :=
  ⟨componentId,"v0",⟨1,2,2,1⟩,[⟨"h0",.int 0,.int 1,[zero],[1],[⟨"c0",0,1,1,1,0,1,
    [⟨value,column,some (.int 0,.int column),some (.int 0),.actual⟩,⟨0,-1,none,none,.tail⟩]⟩]⟩],
    [((.int 0,.int column),⟨componentId,"c0",.int 0⟩)],[]⟩

def meeting : QuerySources :=
  ⟨[oneEntry "a" 0 2 (.int 0),oneEntry "b" 1 3 (.int 0)],none,[],.overlapOnly⟩

def meetingInputs : Vectors :=
  [("ct-value-000000",[2,0]),("ct-query-000000",[10,0]),("ct-f1m-000000",[3,0]),
    ("ct-value-000001",[3,0]),("ct-query-000001",[20,0]),("ct-f1m-000001",[4,0])]

def meetingMasks (shareId : ShareIdentity) : List ℤ := if shareId = toLex ("a","h0") then [3,0] else [4,0]

private theorem meeting_strict : meeting.Strict := by
  refine ⟨?_,?_,?_,?_⟩
  · decide
  all_goals
    intro delta absent
    cases absent

theorem meeting_computes : ∃ compiled results shares, compileQuery constantSha meeting = .ok compiled ∧
    executeValidatedCloudPlan compiled.cloudPlan meetingInputs (committedMasks compiled.cloudPlan.program) 7 =
      .ok results ∧ routeShares compiled.resultRoutes results = .ok shares ∧
    reconstructOutput constantSha compiled.outputPlan shares 7 = .ok [3] := by
  have passed : validatedSources meeting = .ok meeting := by decide +kernel
  obtain ⟨compiled,reference,run,first,_,computes⟩ :=
    (accepted_query_computes_spmv constantSha meeting meeting passed).mpr meeting_strict
  have shape : (match compileQuery constantSha meeting with
      | .ok compiled => decide (compiled.operandSpecs = [
          ⟨"ct-value-000000","ct-query-000000",.publishedChunk,0,"result-000000",[2,0],[0,-1]⟩,
          ⟨"ct-value-000001","ct-query-000001",.publishedChunk,1,"result-000001",[3,0],[1,-1]⟩] ∧
        compiled.resultRoutes = [⟨"result-000000",some "ct-f1m-000000","a","h0"⟩,
          ⟨"result-000001",some "ct-f1m-000001","b","h0"⟩] ∧
        compiled.outputPlan = ⟨1,2,[⟨"a","h0",[(0,0)]⟩,⟨"b","h0",[(0,0)]⟩]⟩)
      | .error _ => false) = true := by decide +kernel
  rw [run] at shape
  simp only [decide_eq_true_eq] at shape
  obtain ⟨specs,routes,plan⟩ := shape
  have isFirst : reference = (oneEntry "a" 0 2 (.int 0)).read := (Option.some.inj first).symm
  subst isFirst
  have family : MaskFamily compiled 7 meetingMasks := by
    refine ⟨?_,?_,?_⟩
    · rw [routes,plan]
      decide
    · rw [routes,plan]
      intro route member _ lane free
      have later : 0 < lane := by
        refine Nat.pos_of_ne_zero fun first => ?_
        subst first
        have crossed : (route.outputShareId,0) ∈ DynamicCssc.OutputPlan.contributors
            ⟨1,2,[⟨"a","h0",[(0,0)]⟩,⟨"b","h0",[(0,0)]⟩]⟩ 0 := by
          fin_cases member <;> decide
        exact absurd (free 0 crossed) (by decide)
      obtain ⟨before,rfl⟩ := Nat.exists_eq_add_of_lt later
      fin_cases member <;> rcases before with _ | before <;> rfl
    · rw [plan]
      intro logical several
      have first : logical = 0 := by
        by_contra other
        simp [DynamicCssc.OutputPlan.multiplicity,DynamicCssc.OutputPlan.mappedCoordinates,Ne.symm other] at several
      subst first
      decide
  have operands : Operands compiled [10,20] meetingMasks meetingInputs := by
    refine ⟨?_,?_,?_,?_⟩
    · rw [specs]
      decide
    · rw [specs]
      decide
    · rw [routes]
      decide
    · rw [specs,routes]
      decide
  obtain ⟨results,shares,output,runs,routed,back,_,same⟩ := computes 7 [10,20] meetingMasks meetingInputs
    (by decide) rfl family operands
  have three : output = [3] := same.trans (by decide +kernel)
  exact ⟨compiled,results,shares,run,runs,routed,three ▸ back⟩

/-- A row map that holds `False` for zero is accepted with the sources, and the query is not compiled. -/
theorem booleanRow_raises :
    let sources : QuerySources := ⟨[oneEntry "a" 0 2 (.bool false)],none,[],.overlapOnly⟩
    validatedSources sources = .ok sources ∧ compileQuery constantSha sources =
      .error ⟨.outputPlanError,"logical coordinate is outside the output vector"⟩ := by
  decide +kernel

end DynamicCssc.Raw
