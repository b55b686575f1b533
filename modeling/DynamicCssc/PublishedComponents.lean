import DynamicCssc.PublishDecode
import DynamicCssc.PublishRequest
import DynamicCssc.ComponentInvariants
import DynamicCssc.PlanPieces

/-! Every accepted request is published: the chunks end, lay out every rank of every row once, decode
to the state, and pass both checks and the output plan. -/
namespace DynamicCssc
open Foundation

/-- How a block stores the ranks of its rows. -/
structure BlockLaidOut (table : RowTable) (spec : LayoutSpec) (block : OutputBlockLayout) : Prop where
  tiles : Tiles block 0 block.chunks
  rectangle : ∀ chunk ∈ block.chunks, chunk.width * chunk.height ≤ spec.effectiveSlots
  heights : ∀ chunk ∈ block.chunks, ∀ place row : ℕ, block.rowMap[place]? = some (row : ℤ) →
    (place < chunk.height ↔ chunk.startColumn < table.capacity row)
  columnMajor : ∀ chunk ∈ block.chunks, ∀ column < chunk.width, ∀ place < chunk.height,
    ∃ row : ℕ, block.rowMap[place]? = some (row : ℤ) ∧
      chunk.lanes[column * chunk.height + place]? = some (laneAt table row (chunk.startColumn + column))
  held : ∀ row : ℕ, (row : ℤ) ∈ block.rowMap → ∀ rank < table.capacity row,
    ∃! spot : ℕ × ℕ, ∃ chunk lane, block.chunks[spot.1]? = some chunk ∧
      chunk.lanes[spot.2]? = some lane ∧ lane.owner = some (row : ℤ) ∧ chunk.rank spot.2 = rank

theorem blockRanges_bounds {spec : LayoutSpec} {range : ℕ × ℕ} (member : range ∈ blockRanges spec) :
    range.2 ≤ spec.rows ∧ range.2 - range.1 ≤ spec.partitionRows := by
  obtain ⟨index,_,rfl⟩ := List.mem_map.mp member
  dsimp only
  omega

def laidComponent (table : RowTable) (spec : LayoutSpec) (versionId componentId : String)
    (chunksOf : (ℕ × ℕ) × ℕ → List ValueChunk) : PublishedComponent :=
  let chunks := (blockRanges spec).zipIdx.flatMap chunksOf
  { componentId := componentId
    versionId := versionId
    layoutSpec := spec
    blocks := (blockRanges spec).zipIdx.map fun block => laidBlock table componentId block (chunksOf block)
    coordinateSlots := Sorting.sortedBy Prod.fst (chunks.flatMap (ValueChunk.placed componentId))
    availableSlots := chunks.flatMap (ValueChunk.free componentId) }

theorem laidComponent_chunks (table : RowTable) (spec : LayoutSpec) (versionId componentId : String)
    (chunksOf : (ℕ × ℕ) × ℕ → List ValueChunk) :
    (laidComponent table spec versionId componentId chunksOf).chunks =
      (blockRanges spec).zipIdx.flatMap chunksOf := by
  rw [PublishedComponent.chunks,laidComponent,List.flatMap_map]
  rfl

private theorem blocks_fold (table : RowTable) (componentId : String) (chunksOf : (ℕ × ℕ) × ℕ → List ValueChunk)
    (blocks : List ((ℕ × ℕ) × ℕ)) (draft : ComponentDraft) :
    blocks.foldl (fun draft block => ⟨draft.blocks ++ [laidBlock table componentId block (chunksOf block)],
      draft.placements ++ (chunksOf block).flatMap (ValueChunk.placed componentId),
      draft.availableSlots ++ (chunksOf block).flatMap (ValueChunk.free componentId)⟩) draft =
    (⟨draft.blocks ++ blocks.map fun block => laidBlock table componentId block (chunksOf block),
      draft.placements ++ (blocks.flatMap chunksOf).flatMap (ValueChunk.placed componentId),
      draft.availableSlots ++ (blocks.flatMap chunksOf).flatMap (ValueChunk.free componentId)⟩ :
      ComponentDraft) := by
  induction blocks generalizing draft with
  | nil => simp
  | cons block blocks ih =>
    rw [List.foldl_cons,ih]
    simp only [List.map_cons,List.flatMap_cons,List.flatMap_append,List.append_assoc,List.singleton_append]

section Laid
variable {table : RowTable} {spec : LayoutSpec} {versionId componentId : String}
  {chunksOf : (ℕ × ℕ) × ℕ → List ValueChunk}

private theorem numbered_inj (stem mark : String) {left right : ℕ} (restl restr : List Char)
    (endl : ∀ char ∈ restl.head?, char.isDigit = false)
    (endr : ∀ char ∈ restr.head?, char.isDigit = false)
    (same : (stem ++ mark ++ sixDigits left).toList ++ restl =
      (stem ++ mark ++ sixDigits right).toList ++ restr) : left = right ∧ restl = restr := by
  simp only [String.toList_append,List.append_assoc] at same
  exact digits_split left right restl restr endl endr
    (List.append_cancel_left (List.append_cancel_left same))

private theorem block_indices (spec : LayoutSpec) : ((blockRanges spec).zipIdx.map Prod.snd).Nodup := by
  rw [List.zipIdx_map_snd]
  exact List.nodup_range'

private theorem laidComponent_blockIds :
    ((laidComponent table spec versionId componentId chunksOf).blocks.map
      OutputBlockLayout.outputBlockId).Nodup := by
  rw [show (laidComponent table spec versionId componentId chunksOf).blocks.map
      OutputBlockLayout.outputBlockId = ((blockRanges spec).zipIdx.map Prod.snd).map
        fun index => componentId ++ "-h" ++ sixDigits index by
    simp only [laidComponent,List.map_map]
    rfl]
  refine (block_indices spec).map fun left right same => ?_
  have chars : (componentId ++ "-h" ++ sixDigits left).toList ++ [] =
      (componentId ++ "-h" ++ sixDigits right).toList ++ [] := by rw [same]
  exact (numbered_inj componentId "-h" [] [] (by simp) (by simp) chars).1

theorem laidComponent_chunkIds (laid : ∀ block ∈ (blockRanges spec).zipIdx,
      BlockLaid table spec componentId block (chunksOf block)) :
    ((laidComponent table spec versionId componentId chunksOf).chunks.map ValueChunk.chunkId).Nodup := by
  have ids (block : (ℕ × ℕ) × ℕ) (member : block ∈ (blockRanges spec).zipIdx) :
      (chunksOf block).map ValueChunk.chunkId = (List.range' 0 (chunksOf block).length).map
        fun number => componentId ++ "-h" ++ sixDigits block.2 ++ "-c" ++ sixDigits number :=
    Laid.ids (laid block member)
  rw [laidComponent_chunks,List.map_flatMap,List.nodup_flatMap]
  constructor
  · intro block member
    rw [ids block member]
    refine List.Nodup.map (fun left right same => ?_) List.nodup_range'
    have chars : (componentId ++ "-h" ++ sixDigits block.2 ++ "-c" ++ sixDigits left).toList ++ [] =
        (componentId ++ "-h" ++ sixDigits block.2 ++ "-c" ++ sixDigits right).toList ++ [] := by rw [same]
    exact (numbered_inj _ "-c" [] [] (by simp) (by simp) chars).1
  · have apart := List.pairwise_map.mp (block_indices spec)
    refine apart.imp_of_mem fun {left right} inLeft inRight differ => ?_
    rw [Function.onFun,ids left inLeft,ids right inRight]
    intro id first second
    obtain ⟨one,_,rfl⟩ := List.mem_map.mp first
    obtain ⟨other,_,same⟩ := List.mem_map.mp second
    have split (stem : String) (number : ℕ) : (stem ++ "-c" ++ sixDigits number).toList =
        stem.toList ++ ('-' :: 'c' :: (sixDigits number).toList) := by
      simp [String.toList_append]
    have chars := congrArg String.toList same
    rw [split,split] at chars
    exact differ (numbered_inj componentId "-h" _ _ (by simp) (by simp) chars).1.symm

private theorem laidComponent_valid (version : validId versionId = true) (named : validId componentId = true)
    (positive : 0 < spec.rows ∧ 0 < spec.cols ∧ 0 < spec.effectiveSlots ∧ 0 < spec.partitionRows)
    (partition : spec.partitionRows ≤ spec.effectiveSlots) (fits : table.Fits spec)
    (laid : ∀ block ∈ (blockRanges spec).zipIdx, BlockLaid table spec componentId block (chunksOf block))
    (distinct : ((laidComponent table spec versionId componentId chunksOf).decode.map Prod.fst).Nodup) :
    ComponentValid (laidComponent table spec versionId componentId chunksOf) := by
  refine ⟨named,version,positive.1,positive.2.1,positive.2.2.1,positive.2.2.2,partition,?_,?_,
    laidComponent_blockIds,laidComponent_chunkIds laid,?_,?_,?_⟩
  · simp [laidComponent]
  · intro pair member
    obtain ⟨place,found⟩ := List.mem_iff_getElem?.mp member
    obtain ⟨first,second⟩ := List.getElem?_zip_eq_some.mp found
    rw [laidComponent,List.getElem?_map] at first
    obtain ⟨block,here,same⟩ := Option.map_eq_some_iff.mp first
    rw [List.getElem?_zipIdx,show (blockRanges spec)[place]? = some pair.2 from second,Option.map_some,
      Option.some.injEq] at here
    have inRanges : block ∈ (blockRanges spec).zipIdx := by
      rw [← here]
      exact List.mk_mem_zipIdx_iff_getElem?.mpr (by rw [Nat.zero_add]; exact second)
    have bounds := blockRanges_bounds (List.mem_of_getElem? second)
    have good := BlockLaid.valid (laid block inRanges) fits named
      (by rw [← here]; exact bounds.1) (by rw [← here]; exact bounds.2.trans partition)
    rw [same,← here] at good
    exact good
  · rwa [scanned_coordinates]
  · rw [scannedCoordinates_eq,laidComponent_chunks]
    rfl
  · rw [scannedAvailable_eq,laidComponent_chunks]
    rfl

private theorem laidComponent_decode (positive : 0 < spec.partitionRows) (fits : table.Fits spec)
    (laid : ∀ block ∈ (blockRanges spec).zipIdx, BlockLaid table spec componentId block (chunksOf block)) :
    (laidComponent table spec versionId componentId chunksOf).decode.Perm
      ((List.range spec.rows).flatMap (rowEntries table)) := by
  have blocks : ((blockRanges spec).zipIdx.flatMap fun block =>
      (laidBlock table componentId block (chunksOf block)).entries).Perm
      ((blockRanges spec).zipIdx.flatMap fun block =>
        (List.range' block.1.1 (block.1.2 - block.1.1)).flatMap (rowEntries table)) :=
    List.Perm.flatMap_left _ fun block member => BlockLaid.entries fits (laid block member)
  have ranges : ((blockRanges spec).zipIdx.flatMap fun block =>
      (List.range' block.1.1 (block.1.2 - block.1.1)).flatMap (rowEntries table)) =
      (List.range spec.rows).flatMap (rowEntries table) := by
    rw [← blockRanges_rows spec positive,List.flatMap_assoc]
    conv_rhs => rw [← List.zipIdx_map_fst 0 (blockRanges spec),List.flatMap_map]
  rw [decode_eq_blocks,laidComponent,List.flatMap_map,← ranges]
  exact blocks

private theorem laidBlock_active (block : (ℕ × ℕ) × ℕ) (chunks : List ValueChunk)
    (valid : BlockValid spec block.1 (laidBlock table componentId block chunks)) :
    (laidBlock table componentId block chunks).rowMap.take
        (rowsBeyond (laidBlock table componentId block chunks) 0) =
      ((sortedRows table block.1).filter fun row => 0 < table.capacity row).map fun row : ℕ => (row : ℤ) := by
  have taken := valid.activeRowMap_eq
  rw [OutputBlockLayout.activeRowMap,
    (zipStrict_success _ _ _).mpr ⟨valid.capacity_count.symm,rfl⟩,Checked.ok_bind] at taken
  simp only [pure,Except.pure,Except.ok.injEq] at taken
  rw [← taken]
  simp only [laidBlock,List.zip_map',List.filter_map,List.map_map]
  rfl

private theorem flatMap_filter_of_nil {α β : Type} (keep : α → Bool) (f : α → List β) (items : List α)
    (nil : ∀ item ∈ items, keep item = false → f item = []) :
    (items.filter keep).flatMap f = items.flatMap f := by
  induction items with
  | nil => rfl
  | cons item items ih =>
    have rest := ih fun other member => nil other (List.mem_cons_of_mem _ member)
    cases kept : keep item with
    | true => rw [List.filter_cons_of_pos kept,List.flatMap_cons,List.flatMap_cons,rest]
    | false =>
      rw [List.filter_cons_of_neg (by simp [kept]),List.flatMap_cons,nil item List.mem_cons_self kept,rest,
        List.nil_append]

private theorem BlockValid.no_chunks {range : ℕ × ℕ} {block : OutputBlockLayout}
    (valid : BlockValid spec range block) (empty : block.chunks = []) : rowsBeyond block 0 = 0 := by
  have tiles := valid.tiles
  rw [empty] at tiles
  have flat : 0 = maxWidth block := tiles
  rw [rowsBeyond,List.countP_eq_zero]
  intro capacity member
  have below : capacity ≤ maxWidth block := List.le_max_of_le member le_rfl
  simp only [decide_eq_true_eq]
  omega

/-- The coordinates that the plan of one valid component maps. -/
private theorem outputPlanFor_single (component : PublishedComponent) (valid : ComponentValid component) :
    ∃ plan, outputPlanFor [component] = .ok plan ∧
      plan.logicalOutputSize = component.layoutSpec.rows ∧
      plan.slotCount = component.layoutSpec.effectiveSlots ∧
      OutputPlan.mappedCoordinates plan =
        component.blocks.flatMap fun block => block.rowMap.take (rowsBeyond block 0) := by
  have shares := components_shares [component] (fun other member => by
    rw [List.mem_singleton.mp member]
    exact valid) []
  refine ⟨⟨component.layoutSpec.rows,component.layoutSpec.effectiveSlots,
    ([component].flatMap componentPieces).map Piece.share⟩,?_,rfl,rfl,?_⟩
  · rw [outputPlanFor,shares]
    refine Checked.pass _ _ _ ?_ rfl
    simp [Checked.then_success]
  · have mapped (block : OutputBlockLayout) : (blockShare component block).slotToLogical.map Prod.snd =
        block.rowMap.take (rowsBeyond block 0) := by
      conv_rhs => rw [← List.zipIdx_map_fst 0 (block.rowMap.take (rowsBeyond block 0))]
      rw [blockShare,List.map_map]
      rfl
    rw [OutputPlan.mappedCoordinates,List.flatMap_singleton,componentPieces,List.map_map,List.flatMap_map]
    rw [flatMap_filter_of_nil (fun block : OutputBlockLayout => decide (block.chunks ≠ []))]
    · exact List.flatMap_congr fun block _ => mapped block
    · intro block member idle
      obtain ⟨range,_,good⟩ := valid.block block member
      have empty : block.chunks = [] := by simpa using idle
      have none := mapped block
      rw [good.no_chunks empty,List.take_zero] at none
      exact none

private theorem laidComponent_plan (positive : 0 < spec.partitionRows)
    (valid : ComponentValid (laidComponent table spec versionId componentId chunksOf)) :
    ∃ plan, outputPlanFor [laidComponent table spec versionId componentId chunksOf] = .ok plan ∧
      plan.logicalOutputSize = spec.rows ∧ plan.slotCount = spec.effectiveSlots ∧
      (OutputPlan.mappedCoordinates plan).Perm
        (((List.range spec.rows).filter fun row => 0 < table.capacity row).map fun row : ℕ => (row : ℤ)) := by
  obtain ⟨plan,built,size,slots,mapped⟩ := outputPlanFor_single _ valid
  refine ⟨plan,built,size,slots,?_⟩
  rw [mapped,laidComponent,List.flatMap_map,← blockRanges_rows spec positive,List.filter_flatMap,
    List.map_flatMap]
  conv_rhs => rw [← List.zipIdx_map_fst 0 (blockRanges spec),List.flatMap_map]
  refine List.Perm.flatMap_left _ fun block member => ?_
  have inBlocks : laidBlock table componentId block (chunksOf block) ∈
      (laidComponent table spec versionId componentId chunksOf).blocks := List.mem_map_of_mem member
  obtain ⟨range,_,good⟩ := valid.block _ inBlocks
  have same : range = block.1 := good.logical.symm
  subst same
  rw [laidBlock_active block (chunksOf block) good]
  exact ((sortedRows_perm table block.1).filter _).map _

private theorem BlockLaid.laidOut {block : (ℕ × ℕ) × ℕ} {chunks : List ValueChunk}
    (laid : BlockLaid table spec componentId block chunks) :
    BlockLaidOut table spec (laidBlock table componentId block chunks) := by
  have source (place row : ℕ) :
      (laidBlock table componentId block chunks).rowMap[place]? = some (row : ℤ) ↔
        (sortedRows table block.1)[place]? = some row := by
    rw [laidBlock,List.getElem?_map]
    cases (sortedRows table block.1)[place]? <;> simp
  have shape (chunk : ValueChunk) (member : chunk ∈ chunks) :
      ∃ index, chunk = blockChunk table spec componentId block chunk.startColumn index := by
    obtain ⟨place,found⟩ := List.mem_iff_getElem?.mp member
    exact ⟨place,(laid.chunk place chunk found).1⟩
  refine ⟨Laid.tiles rfl laid,?_,?_,?_,?_⟩
  · intro chunk member
    obtain ⟨index,same⟩ := shape chunk member
    rw [same]
    exact laidChunk_area table _ _ _
  · intro chunk member place row here
    obtain ⟨index,same⟩ := shape chunk member
    have height : chunk.height = table.reaching (sortedRows table block.1) chunk.startColumn := by
      conv_lhs => rw [same]
      rfl
    rw [height]
    exact lt_reaching (sortedRows_descending table block.1) _ place row ((source place row).mp here)
  · intro chunk member column inWidth place inHeight
    obtain ⟨index,same⟩ := shape chunk member
    have inside : column * chunk.height + place < chunk.width * chunk.height := by
      calc column * chunk.height + place < column * chunk.height + chunk.height := by omega
        _ = (column + 1) * chunk.height := by rw [Nat.succ_mul]
        _ ≤ chunk.width * chunk.height := Nat.mul_le_mul_right _ inWidth
    have modulus : (column * chunk.height + place) % chunk.height = place := by
      rw [Nat.mul_comm,Nat.mul_add_mod,Nat.mod_eq_of_lt inHeight]
    have division : (column * chunk.height + place) / chunk.height = column := by
      rw [Nat.mul_comm,Nat.mul_add_div (by omega),Nat.div_eq_of_lt inHeight,Nat.add_zero]
    generalize start : chunk.startColumn = first at *
    subst same
    obtain ⟨row,here⟩ := rectangle_row _ inside
    have lane := @laidChunk_inside table spec.effectiveSlots
      (componentId ++ "-h" ++ sixDigits block.2) (sortedRows table block.1) first index _ inside
    rw [rectangleLane,here] at lane
    rw [show table.reaching (sortedRows table block.1) first =
      (blockChunk table spec componentId block first index).height from rfl] at here lane
    rw [modulus] at here
    rw [division] at lane
    exact ⟨row,(source place row).mpr here,lane⟩
  · intro row member rank below
    obtain ⟨place,here⟩ := List.mem_iff_getElem?.mp member
    obtain ⟨spot,⟨chunk,found,stored,ranked⟩,unique⟩ := laid.held row rank
      (List.mem_of_getElem? ((source place row).mp here)) below
    exact ⟨spot,⟨chunk,_,found,stored,laneAt_owner table row rank,ranked⟩,unique⟩

end Laid

section Request
variable {state : SparseState} {rows cols effectiveSlots : ℤ} {versionId componentPrefix : String}
  {partitionRows : Option ℤ} {physicalCapacities : Option (List ℤ)}

namespace PublishRequest

variable (request : PublishRequest state rows cols effectiveSlots versionId componentPrefix partitionRows
  physicalCapacities)
include request

theorem spec_pos : 0 < (requestSpec rows cols effectiveSlots partitionRows).rows ∧
    0 < (requestSpec rows cols effectiveSlots partitionRows).cols ∧
    0 < (requestSpec rows cols effectiveSlots partitionRows).effectiveSlots ∧
    0 < (requestSpec rows cols effectiveSlots partitionRows).partitionRows := by
  have := request.rows_pos
  have := request.cols_pos
  have := request.partition_pos
  have := request.partition_fits
  dsimp only [requestSpec]
  omega

theorem spec_fits : (requestSpec rows cols effectiveSlots partitionRows).partitionRows ≤
    (requestSpec rows cols effectiveSlots partitionRows).effectiveSlots :=
  Int.toNat_le_toNat request.partition_fits

private theorem entries_perm : ((List.range (requestSpec rows cols effectiveSlots partitionRows).rows).flatMap
    (rowEntries (requestTable state rows physicalCapacities))).Perm state := by
  have buckets := bucketEntries_perm (Sorting.sortedBy Prod.fst state) rows.toNat fun entry member => by
    have bounds := request.inRange.row entry ((Sorting.mem_sortedBy _ _ _).mp member)
    omega
  refine List.Perm.trans (List.Perm.of_eq (List.flatMap_congr fun row member => ?_))
    (buckets.trans (Sorting.sortedBy_perm _ _))
  have inside : row < rows.toNat := List.mem_range.mp member
  rw [rowEntries,requestTable_entries,if_pos inside,List.map_map]
  conv_rhs => rw [← List.map_id ((Sorting.sortedBy Prod.fst state).filter _)]
  refine List.map_congr_left fun entry inRow => ?_
  have same : entry.1.row = row := by simpa using (List.mem_filter.mp inRow).2
  rw [Function.comp_apply,id,← same]

theorem blocks_end : ∃ chunksOf : (ℕ × ℕ) × ℕ → List ValueChunk,
    (∀ block ∈ (blockRanges (requestSpec rows cols effectiveSlots partitionRows)).zipIdx,
      BlockLaid (requestTable state rows physicalCapacities)
        (requestSpec rows cols effectiveSlots partitionRows) componentPrefix block (chunksOf block)) ∧
    ∀ (rounds : ℕ) (validated : Bool), cols ≤ rounds →
      publishComponent rounds validated state rows cols effectiveSlots versionId componentPrefix
        partitionRows physicalCapacities =
      .ok (laidComponent (requestTable state rows physicalCapacities)
        (requestSpec rows cols effectiveSlots partitionRows) versionId componentPrefix chunksOf) := by
  have each (block : (ℕ × ℕ) × ℕ)
      (member : block ∈ (blockRanges (requestSpec rows cols effectiveSlots partitionRows)).zipIdx) :=
    publishBlock_ok (requestTable state rows physicalCapacities)
      (requestSpec rows cols effectiveSlots partitionRows).effectiveSlots componentPrefix block
      ((blockRanges_bounds (List.fst_mem_of_mem_zipIdx member)).2.trans request.spec_fits)
  choose! chunksOf laid ends using each
  refine ⟨chunksOf,laid,?_⟩
  intro rounds validated enough
  have rowsPos := request.rows_pos
  have colsPos := request.cols_pos
  have partitionPos := request.partition_pos
  have partitionFits := request.partition_fits
  have wide (block : (ℕ × ℕ) × ℕ) :
      (requestTable state rows physicalCapacities).widest
        (sortedRows (requestTable state rows physicalCapacities) block.1) ≤ rounds := by
    refine List.max_le_of_forall_le _ _ fun capacity member => ?_
    obtain ⟨row,_,rfl⟩ := List.mem_map.mp member
    have bound : (requestTable state rows physicalCapacities).capacity row ≤ cols.toNat :=
      request.fits.capacity row
    omega
  have blocks := Checked.foldlM_ok
    (publishBlock rounds (requestTable state rows physicalCapacities) effectiveSlots.toNat componentPrefix)
    (fun draft block => ⟨draft.blocks ++ [laidBlock (requestTable state rows physicalCapacities)
        componentPrefix block (chunksOf block)],
      draft.placements ++ (chunksOf block).flatMap (ValueChunk.placed componentPrefix),
      draft.availableSlots ++ (chunksOf block).flatMap (ValueChunk.free componentPrefix)⟩)
    (blockRanges (requestSpec rows cols effectiveSlots partitionRows)).zipIdx ⟨[],[],[]⟩
    (fun draft block member => ends block member rounds (wide block) draft)
  rw [blocks_fold] at blocks
  have positive (value : ℤ) (field : String) (above : 0 < value) :
      requirePositiveInt value field = .ok value.toNat :=
    Checked.pass _ _ _ (Checked.require_true _ _ above) rfl
  unfold publishComponent
  rw [positive rows _ rowsPos,positive cols _ colsPos,positive effectiveSlots _ (by omega)]
  simp only [Checked.ok_bind]
  refine Checked.pass _ _ _ ((requireId_success _ _ _ _).mpr request.version) ?_
  refine Checked.pass _ _ _ ((requireId_success _ _ _ _).mpr request.component) ?_
  refine Checked.pass _ _ _ (Checked.require_true _ _ ⟨partitionPos,partitionFits⟩) ?_
  rw [request.stateEntries_ok validated,Checked.ok_bind,request.checkedCapacities_ok,Checked.ok_bind]
  refine (Checked.bind_success _ _ _).mpr ⟨_,blocks,?_⟩
  rfl

end PublishRequest

/-- Every accepted request is published within as many rounds as there are columns. The component lays
out every rank below a capacity once and column by column, decodes to the state, passes the check of
the strategies and that of the query compiler, and its plan maps the rows with a capacity. -/
theorem publishComponent_exact
    (request : PublishRequest state rows cols effectiveSlots versionId componentPrefix partitionRows
      physicalCapacities) (validated : Bool) :
    ∃ component : PublishedComponent,
      (∀ rounds : ℕ, cols ≤ rounds → publishComponent rounds validated state rows cols effectiveSlots
        versionId componentPrefix partitionRows physicalCapacities = .ok component) ∧
      component.layoutSpec = requestSpec rows cols effectiveSlots partitionRows ∧
      (∀ block ∈ component.blocks,
        BlockLaidOut (requestTable state rows physicalCapacities) component.layoutSpec block) ∧
      component.decode.Perm state ∧
      (∀ matrixValueBound : ℕ, (∀ entry ∈ state, entry.2.natAbs ≤ matrixValueBound) →
        ∃ inspection, assertComponentInvariants component component.layoutSpec matrixValueBound =
          .ok inspection ∧ inspection.decoded.Perm state) ∧
      ComponentValid component ∧
      ∃ plan, outputPlanFor [component] = .ok plan ∧
        (OutputPlan.mappedCoordinates plan).Perm
          (((List.range rows.toNat).filter fun row =>
            0 < requestedCapacity state physicalCapacities row).map fun row : ℕ => (row : ℤ)) := by
  obtain ⟨chunksOf,laid,ends⟩ := request.blocks_end
  have positive := request.spec_pos
  have decoded := (@laidComponent_decode _ _ versionId _ _ positive.2.2.2 request.fits laid).trans
    request.entries_perm
  have valid := @laidComponent_valid _ _ versionId _ _ request.version request.component positive
    request.spec_fits request.fits laid ((decoded.map Prod.fst).nodup_iff.mpr request.inRange.distinct)
  obtain ⟨plan,built,_,_,mapped⟩ := laidComponent_plan positive.2.2.2 valid
  refine ⟨_,fun rounds enough => ends rounds validated enough,rfl,?_,decoded,?_,valid,plan,built,?_⟩
  · intro block member
    obtain ⟨source,inRanges,rfl⟩ := List.mem_map.mp member
    exact (laid source inRanges).laidOut
  · intro bound bounded
    exact ⟨_,assertComponentInvariants_ok _ valid bound fun entry member =>
      bounded entry (decoded.mem_iff.mp member),decoded⟩
  · refine mapped.trans (List.Perm.of_eq (congrArg _ (List.filter_congr fun row member => ?_)))
    have inside : row < rows.toNat := List.mem_range.mp member
    rw [requestTable_capacity,if_pos inside]

end Request

/-- Three rows of a matrix with five, cut into two blocks. -/
def smallState : SparseState := [(⟨0,1⟩,5),(⟨2,0⟩,-3),(⟨2,2⟩,7),(⟨1,0⟩,2),(⟨2,1⟩,1)]

theorem smallState_request :
    PublishRequest smallState 5 3 4 "v1" "base" (some 3) (some [2,1,3,1,0]) := by
  refine ⟨by decide,by decide,by decide,by decide,by decide,by decide,
    ⟨by decide,by decide,by decide,by decide⟩,?_,?_⟩
  · intro capacities given
    cases given
    rfl
  · intro capacities given row capacity found
    cases given
    have inside := (List.getElem?_eq_some_iff.mp found).1
    have every : ∀ row : Fin 5, smallState.rowCount row ≤ [2,1,3,1,(0 : ℤ)][row] ∧
        [2,1,3,1,(0 : ℤ)][row] ≤ 3 := by decide
    have bounds := every ⟨row,inside⟩
    rw [List.getElem?_eq_getElem inside,Option.some.injEq] at found
    rw [← found]
    exact bounds

theorem smallState_published : ∃ component : PublishedComponent,
    publishComponent 3 false smallState 5 3 4 "v1" "base" (some 3) (some [2,1,3,1,0]) = .ok component ∧
      component.decode.Perm smallState := by
  obtain ⟨component,published,_,_,decoded,_⟩ := publishComponent_exact smallState_request false
  exact ⟨component,published 3 (by decide),decoded⟩

end DynamicCssc
