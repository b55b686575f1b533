import DynamicCssc.CsscGeometry
import DynamicCssc.QueryAccepted
import DynamicCssc.QuerySources

/-! The pieces of a query: a share of the output plan, the outcome that returns it, and the entries
of the matrix whose row sums its lanes hold. -/
namespace DynamicCssc
open Foundation

section Lists

private theorem nodup_of_interval (start stop : ℕ) (rows : List ℤ)
    (all : ∀ row : ℤ, row ∈ rows ↔ (start : ℤ) ≤ row ∧ row < stop) (count : rows.length = stop - start) :
    rows.Nodup := by
  have set : rows.toFinset = Finset.Ico (start : ℤ) stop := by
    ext row
    rw [List.mem_toFinset,Finset.mem_Ico]
    exact all row
  have card : rows.dedup.length = rows.length := by
    rw [← List.card_toFinset,set,Int.card_Ico,count]
    omega
  exact (List.dedup_sublist rows).eq_of_length card ▸ List.nodup_dedup rows

private theorem filter_eq_take {α : Type} (passes : α → Bool) (items : List α)
    (early : ∀ place item, items[place]? = some item → passes item = true → place < items.countP passes) :
    items.filter passes = items.take (items.countP passes) := by
  have none : (items.drop (items.countP passes)).filter passes = [] := by
    rw [List.filter_eq_nil_iff]
    intro item member pass
    obtain ⟨place,found⟩ := List.mem_iff_getElem?.mp member
    rw [List.getElem?_drop] at found
    have := early _ item found pass
    omega
  have front : items.filter passes = (items.take (items.countP passes)).filter passes := by
    conv_lhs => rw [← List.take_append_drop (items.countP passes) items,List.filter_append,none,
      List.append_nil]
  have long : (items.take (items.countP passes)).length ≤
      ((items.take (items.countP passes)).filter passes).length := by
    rw [← front,← List.countP_eq_length_filter,List.length_take]
    omega
  rw [front]
  exact List.filter_sublist.eq_of_length_le long

end Lists

section
variable {R : Type} [CommRing R]

def Part.product (weight : ℤ → R) (part : Part) (slot : ℕ) : R :=
  ((part.values[slot]?).getD 0 : ℤ) * weight ((part.columns[slot]?).getD (-1))

/-- What a part contributes to a lane when its queries are weights of its columns. -/
def Part.weighted (weight : ℤ → R) (part : Part) (lane : ℕ) : R :=
  if part.selected lane then Strided.total (part.product weight) part.stride part.terms lane else 0

def Outcome.weighted (weight : ℤ → R) (outcome : Outcome) (lane : ℕ) : R :=
  (outcome.parts.map fun part => part.weighted weight lane).sum

/-- The lanes of a share that belong to a row, summed. -/
def OutputShare.rowTotal (share : OutputShare) (row : ℤ) (lanes : ℕ → R) : R :=
  (share.slotToLogical.map fun entry => if entry.2 = row then lanes entry.1 else 0).sum

structure Piece where
  share : OutputShare
  outcome : Outcome
  entries : List (Coordinate × ℤ)

/-- What a plan asks of a single share. -/
structure ShareValid (rows slotCount : ℕ) (share : OutputShare) : Prop where
  ids : validId share.componentId = true ∧ validId share.outputBlockId = true
  nonempty : share.slotToLogical ≠ []
  slots_nodup : (share.slotToLogical.map Prod.fst).Nodup
  slot_lt : ∀ entry ∈ share.slotToLogical, entry.1 < slotCount
  logical_range : ∀ entry ∈ share.slotToLogical, 0 ≤ entry.2 ∧ entry.2 < rows

structure Piece.Sound (rows cols slotCount : ℕ) (piece : Piece) : Prop where
  identity : piece.outcome.share = piece.share.identity
  valid : ShareValid rows slotCount piece.share
  lengths : ∀ part ∈ piece.outcome.parts, part.values.length = slotCount ∧ part.columns.length = slotCount
  columns : ∀ part ∈ piece.outcome.parts, ∀ column ∈ part.columns, column < cols
  sums : ∀ (R : Type) [CommRing R] (weight : ℤ → R) (row : ℤ),
    piece.share.rowTotal row (piece.outcome.weighted weight) = rowSum weight row piece.entries

private theorem rowSum_none (weight : ℤ → R) (row : ℤ) (entries : List (Coordinate × ℤ))
    (none : ∀ entry ∈ entries, entry.1.row ≠ row) : rowSum weight row entries = 0 := by
  rw [rowSum]
  refine List.sum_eq_zero fun value member => ?_
  obtain ⟨entry,inside,rfl⟩ := List.mem_map.mp member
  exact if_neg (none entry inside)

/-! Blocks. -/

namespace BlockValid

variable {spec : LayoutSpec} {range : ℕ × ℕ} {block : OutputBlockLayout}

private theorem rows_nodup (valid : BlockValid spec range block) : block.rowMap.Nodup :=
  nodup_of_interval range.1 range.2 block.rowMap valid.rows valid.row_count

private theorem height_le {chunk : ValueChunk} (valid : ChunkValid spec block chunk) :
    chunk.height ≤ rowsBeyond block 0 := by
  rw [valid.height,rowsBeyond,rowsBeyond]
  refine List.countP_mono_left ?_
  intro capacity _ beyond
  simp only [decide_eq_true_eq] at beyond ⊢
  omega

private theorem rowsBeyond_le (valid : BlockValid spec range block) : rowsBeyond block 0 ≤ block.rowMap.length := by
  rw [← valid.capacity_count]
  exact List.countP_le_length

theorem reached (valid : BlockValid spec range block) (place : ℕ) (row : ℤ)
    (here : block.rowMap[place]? = some row) (positive : 0 < materializedWidth block row) :
    place < rowsBeyond block 0 := by
  have some : ∃ width ∈ block.chunks.flatMap fun chunk => chunk.lanes.zipIdx.map fun entry =>
      if entry.1.kind.materialized && entry.1.owner == some row then chunk.rank entry.2 + 1 else 0,
      0 < width := by
    by_contra none
    push Not at none
    have zero : materializedWidth block row ≤ 0 := by
      rw [materializedWidth]
      generalize (block.chunks.flatMap fun chunk => chunk.lanes.zipIdx.map fun entry =>
        if entry.1.kind.materialized && entry.1.owner == some row then chunk.rank entry.2 + 1 else 0) = widths
        at none
      induction widths with
      | nil => exact le_rfl
      | cons width widths ih =>
        rw [List.foldr_cons]
        exact max_le (none width (by simp)) (ih fun other member => none other (by simp [member]))
    omega
  obtain ⟨width,member,wide⟩ := some
  obtain ⟨chunk,inBlock,member⟩ := List.mem_flatMap.mp member
  obtain ⟨⟨lane,slot⟩,inChunk,rfl⟩ := List.mem_map.mp member
  dsimp only at wide
  split at wide
  · rename_i owned
    simp only [Bool.and_eq_true,beq_iff_eq] at owned
    have good := valid.chunks chunk inBlock
    have shape := good.shapes (lane,slot) inChunk
    unfold LaneShape at shape
    split at shape
    · have same : block.rowMap[chunk.physicalRow slot]? = block.rowMap[place]? := by
        rw [here,← shape.1,owned.2]
      have inside : chunk.physicalRow slot < chunk.height := Nat.mod_lt _ good.height_pos
      have bound : chunk.physicalRow slot < block.rowMap.length := by
        rw [here] at same
        exact (List.getElem?_eq_some_iff.mp same).1
      rw [← (List.getElem?_inj bound valid.rows_nodup).mp same]
      exact lt_of_lt_of_le inside (height_le good)
    · rw [shape.1] at owned
      cases owned.1
  · omega

theorem activeRowMap_eq (valid : BlockValid spec range block) :
    block.activeRowMap = .ok (block.rowMap.take (rowsBeyond block 0)) := by
  have count : (block.rowMap.zip block.physicalRowCapacities).countP (fun entry => decide (0 < entry.2)) =
      rowsBeyond block 0 := by
    have second := @List.map_snd_zip _ _ block.rowMap block.physicalRowCapacities valid.capacity_count.le
    conv_rhs => rw [rowsBeyond,← second,List.countP_map]
    rfl
  rw [OutputBlockLayout.activeRowMap,(zipStrict_success _ _ _).mpr ⟨valid.capacity_count.symm,rfl⟩,
    Checked.ok_bind,filter_eq_take,count,List.map_take,List.map_fst_zip (by rw [valid.capacity_count])]
  · rfl
  · intro place entry found positive
    rw [count]
    rw [List.getElem?_zip_eq_some] at found
    have width := found.2
    rw [valid.widths,List.getElem?_map,found.1,Option.map_some,Option.some.injEq] at width
    refine valid.reached place entry.1 found.1 ?_
    rw [width]
    simpa using positive

private theorem entry_active (valid : BlockValid spec range block) (entry : Coordinate × ℤ)
    (member : entry ∈ block.entries) : entry.1.row ∈ block.rowMap.take (rowsBeyond block 0) := by
  obtain ⟨chunk,inBlock,inChunk⟩ := List.mem_flatMap.mp member
  obtain ⟨lane,inLanes,entered⟩ := List.mem_filterMap.mp inChunk
  obtain ⟨slot,found⟩ := List.mem_iff_getElem?.mp inLanes
  rw [Lane.entry] at entered
  split at entered
  · rename_i active
    have good := valid.chunks chunk inBlock
    obtain ⟨_,row,here,_,coordinate⟩ := good.active_lane slot lane found active
    rw [coordinate,Option.map_some,Option.some.injEq] at entered
    have below : slot % chunk.height < rowsBeyond block 0 :=
      lt_of_lt_of_le (Nat.mod_lt _ good.height_pos) (height_le good)
    rw [← entered]
    refine List.mem_iff_getElem?.mpr ⟨slot % chunk.height,?_⟩
    rw [List.getElem?_take,if_pos below]
    exact here
  · cases entered

end BlockValid

/-- The share that `output_plan_for` makes of a block. -/
def blockShare (component : PublishedComponent) (block : OutputBlockLayout) : OutputShare :=
  { componentId := component.componentId
    outputBlockId := block.outputBlockId
    slotToLogical := (block.rowMap.take (rowsBeyond block 0)).zipIdx.map fun entry => (entry.2,entry.1) }

def blockPiece (component : PublishedComponent) (block : OutputBlockLayout) : Piece :=
  ⟨blockShare component block,blockOutcome component block,block.entries⟩

private theorem total_zipIdx (rows : List ℤ) (distinct : rows.Nodup) (row : ℤ) (lanes : ℕ → R) :
    ((rows.zipIdx.map fun entry => (entry.2,entry.1)).map fun entry =>
      if entry.2 = row then lanes entry.1 else 0).sum =
    if row ∈ rows then lanes (rows.idxOf row) else 0 := by
  rw [List.map_map]
  induction rows using List.reverseRecOn with
  | nil => simp
  | append_singleton rows last ih =>
    have apart := List.nodup_append.mp distinct
    rw [List.zipIdx_append,List.map_append,List.sum_append,ih apart.1]
    by_cases here : last = row
    · have absent : row ∉ rows := fun inside => apart.2.2 row inside last (by simp) here.symm
      simp [here,absent,List.idxOf_append]
    · have other : row ≠ last := fun same => here same.symm
      by_cases inside : row ∈ rows
      · simp [here,inside,List.idxOf_append]
      · simp [here,other,inside]

private theorem blockPiece_sums {spec : LayoutSpec} {range : ℕ × ℕ} (component : PublishedComponent)
    (block : OutputBlockLayout) (valid : BlockValid spec range block) (weight : ℤ → R) (row : ℤ) :
    (blockPiece component block).share.rowTotal row ((blockPiece component block).outcome.weighted weight) =
      rowSum weight row (blockPiece component block).entries := by
  have distinct : (block.rowMap.take (rowsBeyond block 0)).Nodup :=
    valid.rows_nodup.sublist (List.take_sublist _ _)
  rw [OutputShare.rowTotal,show (blockPiece component block).share.slotToLogical =
    (block.rowMap.take (rowsBeyond block 0)).zipIdx.map fun entry => (entry.2,entry.1) from rfl,
    total_zipIdx _ distinct]
  split
  · rename_i active
    have found : block.rowMap[(block.rowMap.take (rowsBeyond block 0)).idxOf row]? = some row := by
      have place := List.idxOf_lt_length_of_mem active
      have held := List.getElem?_idxOf active
      rwa [List.getElem?_take,if_pos (by rw [List.length_take] at place; omega)] at held
    rw [show (blockPiece component block).entries = block.chunks.flatMap ValueChunk.entries from rfl,
      rowSum_flatMap,Outcome.weighted,show (blockPiece component block).outcome.parts =
        block.chunks.map (chunkPart 0) from rfl,List.map_map]
    congr 1
    refine List.map_congr_left fun chunk member => ?_
    rw [← (valid.chunks chunk member).row_sum valid.rows_nodup weight _ row found]
    simp only [Function.comp_apply,Part.weighted,chunkPart,decide_eq_true_eq]
    rfl
  · rename_i inactive
    refine (rowSum_none weight row _ fun entry member same => inactive ?_).symm
    exact same ▸ valid.entry_active entry member

private theorem LaneContent.column_lt {spec : LayoutSpec} {lane : Lane} (content : LaneContent spec lane) :
    lane.column < spec.cols := by
  unfold LaneContent at content
  split at content
  · exact content.2.2.2.2
  · exact content.2.2.2
  · rw [content.2.2]
    omega
  · rw [content.2.2]
    omega
  · rw [content.2.2]
    omega
  · exact content.elim

theorem ComponentValid.block {component : PublishedComponent} (valid : ComponentValid component)
    (block : OutputBlockLayout) (member : block ∈ component.blocks) :
    ∃ range ∈ blockRanges component.layoutSpec, BlockValid component.layoutSpec range block := by
  obtain ⟨place,found⟩ := List.mem_iff_getElem?.mp member
  have below := (List.getElem?_eq_some_iff.mp found).1
  rw [valid.block_count] at below
  have paired : (block,(blockRanges component.layoutSpec)[place]) ∈
      component.blocks.zip (blockRanges component.layoutSpec) :=
    List.mem_iff_getElem?.mpr ⟨place,List.getElem?_zip_eq_some.mpr ⟨found,List.getElem?_eq_getElem below⟩⟩
  exact ⟨_,List.getElem_mem below,valid.blocks _ paired⟩

theorem blockPiece_sound (component : PublishedComponent) (valid : ComponentValid component)
    (block : OutputBlockLayout) (member : block ∈ component.blocks) (nonempty : block.chunks ≠ []) :
    (blockPiece component block).Sound component.layoutSpec.rows component.layoutSpec.cols
      component.layoutSpec.effectiveSlots := by
  obtain ⟨range,inRanges,good⟩ := valid.block block member
  obtain ⟨index,_,rfl⟩ := List.mem_map.mp inRanges
  have fits := valid.partition_fits
  have slots : (blockShare component block).slotToLogical.map Prod.fst =
      List.range (min (rowsBeyond block 0) block.rowMap.length) := by
    rw [blockShare,List.map_map,← List.length_take,List.range_eq_range',← List.zipIdx_map_snd]
    rfl
  refine ⟨rfl,⟨⟨valid.id,good.id⟩,?_,?_,?_,?_⟩,?_,?_,fun R _ weight row =>
    blockPiece_sums component block good weight row⟩
  · intro empty
    obtain ⟨chunk,inBlock⟩ := List.exists_mem_of_ne_nil _ nonempty
    have tall := BlockValid.height_le (good.chunks chunk inBlock)
    have positive := (good.chunks chunk inBlock).height_pos
    have short := good.rowsBeyond_le
    have none : (blockShare component block).slotToLogical.map Prod.fst = [] := by
      rw [show (blockShare component block).slotToLogical = [] from empty]
      rfl
    rw [slots,List.range_eq_nil] at none
    omega
  · exact slots ▸ List.nodup_range
  · intro entry inside
    have lane : entry.1 ∈ (blockShare component block).slotToLogical.map Prod.fst :=
      List.mem_map_of_mem inside
    rw [slots,List.mem_range] at lane
    have count := good.row_count
    dsimp only at count
    omega
  · intro entry inside
    obtain ⟨⟨row,lane⟩,there,rfl⟩ := List.mem_map.mp inside
    have inRows := List.mem_of_mem_take (List.fst_mem_of_mem_zipIdx there)
    have bounds := (good.rows row).mp inRows
    dsimp only at bounds ⊢
    omega
  · intro part inParts
    obtain ⟨chunk,inBlock,rfl⟩ := List.mem_map.mp inParts
    have long := (good.chunks chunk inBlock).length
    simp [chunkPart,ValueChunk.values,ValueChunk.columnIndices,long]
  · intro part inParts column inColumns
    obtain ⟨chunk,inBlock,rfl⟩ := List.mem_map.mp inParts
    obtain ⟨lane,inChunk,rfl⟩ := List.mem_map.mp inColumns
    exact LaneContent.column_lt ((good.chunks chunk inBlock).contents lane inChunk)

end
end DynamicCssc
