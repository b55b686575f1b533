import DynamicCssc.PublishBlocks

/-! A published block is valid: its chunks have the geometry and the lanes that the query compiler
recomputes, and the ranks that are stored make up the capacities. -/
namespace DynamicCssc
open Foundation

private theorem numbered_valid (stem mark : String) (number : ℕ) (valid : validId stem = true)
    (printed : mark.toList.all printable = true) : validId (stem ++ mark ++ sixDigits number) = true := by
  simp only [validId,Bool.and_eq_true,Bool.not_eq_true'] at valid ⊢
  obtain ⟨nonempty,stemPrinted⟩ := valid
  simp only [String.toList_append,List.all_append,stemPrinted,printed,sixDigits_printable,Bool.and_self,
    and_true]
  cases held : stem.toList with
  | nil => simp [held] at nonempty
  | cons head tail => rfl

section Lanes
variable {table : RowTable} {spec : LayoutSpec} {slots : ℕ} {blockId componentId : String}
  {rowMap : List ℕ} {column index : ℕ}

theorem laidChunk_inside (slot : ℕ)
    (inside : slot < table.chunkWidth slots rowMap column * table.reaching rowMap column) :
    (laidChunk table slots blockId rowMap column index).lanes[slot]? =
      some (rectangleLane table rowMap column (table.reaching rowMap column) slot) := by
  rw [laidChunk]
  dsimp only
  rw [List.getElem?_append_left (by simpa using inside),List.getElem?_map,
    List.getElem?_range inside]
  rfl

private theorem laidChunk_outside (slot : ℕ) (lane : Lane)
    (outside : ¬slot < table.chunkWidth slots rowMap column * table.reaching rowMap column)
    (found : (laidChunk table slots blockId rowMap column index).lanes[slot]? = some lane) :
    lane = tailLane := by
  rw [laidChunk] at found
  dsimp only at found
  rw [List.getElem?_append_right (by simpa using outside)] at found
  exact List.eq_of_mem_replicate (List.mem_of_getElem? found)

private theorem laidChunk_length : (laidChunk table slots blockId rowMap column index).lanes.length = slots := by
  have area := laidChunk_area table slots rowMap column
  simp only [laidChunk,List.length_append,List.length_map,List.length_range,List.length_replicate]
  omega

theorem rectangle_row (slot : ℕ)
    (inside : slot < table.chunkWidth slots rowMap column * table.reaching rowMap column) :
    ∃ row, rowMap[slot % table.reaching rowMap column]? = some row := by
  have tall : 0 < table.reaching rowMap column := Nat.pos_of_ne_zero fun flat => by
    rw [flat] at inside
    omega
  have place := (Nat.mod_lt slot tall).trans_le (reaching_le column)
  exact ⟨_,List.getElem?_eq_getElem place⟩

private theorem laneAt_content (fits : table.Fits spec) (row rank : ℕ) (inside : row < spec.rows) :
    LaneContent spec (laneAt table row rank) := by
  unfold laneAt
  split
  · exact ⟨rfl,rfl,rfl⟩
  · cases held : (table.entries row)[rank]? with
    | none => exact ⟨rfl,rfl,rfl⟩
    | some entry =>
      have good := fits.entry row entry (List.mem_of_getElem? held)
      exact ⟨rfl,good.1,⟨by omega,by exact_mod_cast inside⟩,good.2⟩

end Lanes

section Chunk
variable {table : RowTable} {spec : LayoutSpec} {componentId : String} {block : (ℕ × ℕ) × ℕ}

def blockChunk (table : RowTable) (spec : LayoutSpec) (componentId : String) (block : (ℕ × ℕ) × ℕ)
    (column index : ℕ) : ValueChunk :=
  laidChunk table spec.effectiveSlots (componentId ++ "-h" ++ sixDigits block.2)
    (sortedRows table block.1) column index

private theorem blockChunk_area (column index : ℕ) :
    (blockChunk table spec componentId block column index).rectangularSlots =
      table.chunkWidth spec.effectiveSlots (sortedRows table block.1) column *
        table.reaching (sortedRows table block.1) column := Nat.mul_comm _ _

private theorem blockChunk_shape (chunks : List ValueChunk) (column index slot : ℕ) (lane : Lane)
    (found : (blockChunk table spec componentId block column index).lanes[slot]? = some lane) :
    LaneShape (laidBlock table componentId block chunks)
      (blockChunk table spec componentId block column index) slot lane := by
  rw [LaneShape,blockChunk_area]
  by_cases inside : slot < table.chunkWidth spec.effectiveSlots (sortedRows table block.1) column *
      table.reaching (sortedRows table block.1) column
  · rw [blockChunk,laidChunk_inside slot inside,Option.some.injEq] at found
    obtain ⟨row,here⟩ := rectangle_row slot inside
    have stored : lane = laneAt table row
        (column + slot / table.reaching (sortedRows table block.1) column) := by
      rw [← found,rectangleLane,here]
      rfl
    have owner : (laidBlock table componentId block chunks).rowMap[
        slot % table.reaching (sortedRows table block.1) column]? = some (row : ℤ) := by
      rw [laidBlock,List.getElem?_map,here]
      rfl
    have capacity : ((laidBlock table componentId block chunks).physicalRowCapacities[
        slot % table.reaching (sortedRows table block.1) column]?).getD 0 = table.capacity row := by
      rw [laidBlock,List.getElem?_map,here]
      rfl
    rw [if_pos inside,stored,laneAt_owner]
    refine ⟨owner.symm,?_⟩
    rw [show (blockChunk table spec componentId block column index).physicalRow slot =
      slot % table.reaching (sortedRows table block.1) column from rfl,capacity]
    split
    · exact laneAt_materialized table row _ ‹_›
    · exact laneAt_padding table row _ (not_lt.mp ‹_›)
  · rw [laidChunk_outside slot lane inside found,if_neg inside]
    exact ⟨rfl,rfl⟩

private theorem blockChunk_content (fits : table.Fits spec) (bounded : block.1.2 ≤ spec.rows)
    (column index slot : ℕ) (lane : Lane)
    (found : (blockChunk table spec componentId block column index).lanes[slot]? = some lane) :
    LaneContent spec lane := by
  by_cases inside : slot < table.chunkWidth spec.effectiveSlots (sortedRows table block.1) column *
      table.reaching (sortedRows table block.1) column
  · rw [blockChunk,laidChunk_inside slot inside,Option.some.injEq] at found
    subst found
    obtain ⟨row,here⟩ := rectangle_row slot inside
    have within := (mem_sortedRows table block.1 row).mp (List.mem_of_getElem? here)
    rw [rectangleLane,here]
    exact laneAt_content fits row _ (by omega)
  · rw [laidChunk_outside slot lane inside found]
    exact ⟨rfl,rfl,rfl⟩

private theorem blockChunk_valid (chunks : List ValueChunk) (fits : table.Fits spec)
    (named : validId componentId = true) (bounded : block.1.2 ≤ spec.rows)
    (short : block.1.2 - block.1.1 ≤ spec.effectiveSlots) (column index : ℕ)
    (beyond : column < table.widest (sortedRows table block.1)) :
    ChunkValid spec (laidBlock table componentId block chunks)
      (blockChunk table spec componentId block column index) := by
  have rows : (sortedRows table block.1).length ≤ spec.effectiveSlots := by rwa [sortedRows_length]
  have counted (kind : LaneKind) (other : kind ≠ .tail) (lanes : List Lane) (count : ℕ) :
      lanes.countP (fun lane => lane.kind = kind) =
        (lanes ++ List.replicate count tailLane).countP fun lane => lane.kind = kind := by
    rw [List.countP_append,List.countP_replicate]
    simp [tailLane,Ne.symm other]
  have blockId := numbered_valid componentId "-h" block.2 named (by decide)
  refine ⟨numbered_valid _ "-c" index blockId (by decide),chunkWidth_pos rows beyond,reaching_pos beyond,
    blockChunk_area column index,?_,rfl,rfl,laidChunk_length,?_,?_,counted _ (by decide) _ _,
    counted _ (by decide) _ _⟩
  · exact (blockChunk_area column index).trans_le (laidChunk_area table _ _ column)
  · intro entry member
    exact blockChunk_shape chunks column index entry.2 entry.1 (List.mk_mem_zipIdx_iff_getElem?.mp member)
  · intro lane member
    obtain ⟨slot,found⟩ := List.mem_iff_getElem?.mp member
    exact blockChunk_content fits bounded column index slot lane found

end Chunk

section Block
variable {table : RowTable} {spec : LayoutSpec} {componentId : String} {block : (ℕ × ℕ) × ℕ}
  {chunks : List ValueChunk}

def BlockLaid (table : RowTable) (spec : LayoutSpec) (componentId : String) (block : (ℕ × ℕ) × ℕ)
    (chunks : List ValueChunk) : Prop :=
  Laid table spec.effectiveSlots (componentId ++ "-h" ++ sixDigits block.2) (sortedRows table block.1) 0 0
    chunks (table.widest (sortedRows table block.1))

theorem BlockLaid.chunk (laid : BlockLaid table spec componentId block chunks) (place : ℕ)
    (chunk : ValueChunk) (here : chunks[place]? = some chunk) :
    chunk = blockChunk table spec componentId block chunk.startColumn place ∧
      chunk.startColumn < table.widest (sortedRows table block.1) := by
  obtain ⟨same,_,beyond⟩ := Laid.chunk laid place chunk here
  rw [Nat.zero_add] at same
  exact ⟨same,beyond⟩

theorem blockChunk_owned (column index slot : ℕ) (lane : Lane) (row : ℤ)
    (found : (blockChunk table spec componentId block column index).lanes[slot]? = some lane)
    (owned : lane.owner = some row) :
    slot < table.chunkWidth spec.effectiveSlots (sortedRows table block.1) column *
        table.reaching (sortedRows table block.1) column ∧
      ∃ source : ℕ, row = source ∧
        (sortedRows table block.1)[slot % table.reaching (sortedRows table block.1) column]? = some source ∧
        lane = laneAt table source ((blockChunk table spec componentId block column index).rank slot) := by
  by_cases inside : slot < table.chunkWidth spec.effectiveSlots (sortedRows table block.1) column *
      table.reaching (sortedRows table block.1) column
  · rw [blockChunk,laidChunk_inside slot inside,Option.some.injEq] at found
    obtain ⟨source,here⟩ := rectangle_row slot inside
    have stored : lane = laneAt table source
        (column + slot / table.reaching (sortedRows table block.1) column) := by
      rw [← found,rectangleLane,here]
      rfl
    rw [stored,laneAt_owner,Option.some.injEq] at owned
    exact ⟨inside,source,owned.symm,here,stored⟩
  · rw [laidChunk_outside slot lane inside found] at owned
    cases owned

/-- Every rank below the capacity of a row is held by exactly one lane of the row, and that lane is
what the row stores at the rank. -/
theorem BlockLaid.held (laid : BlockLaid table spec componentId block chunks) (row rank : ℕ)
    (member : row ∈ sortedRows table block.1) (below : rank < table.capacity row) :
    ∃ spot : ℕ × ℕ, (∃ chunk, chunks[spot.1]? = some chunk ∧
        chunk.lanes[spot.2]? = some (laneAt table row rank) ∧ chunk.rank spot.2 = rank) ∧
      ∀ other : ℕ × ℕ, (∃ chunk lane, chunks[other.1]? = some chunk ∧
        chunk.lanes[other.2]? = some lane ∧ lane.owner = some (row : ℤ) ∧ chunk.rank other.2 = rank) →
        other = spot := by
  obtain ⟨place,here⟩ := List.mem_iff_getElem?.mp member
  have wide : rank < table.widest (sortedRows table block.1) := (lt_widest rank).mpr ⟨row,member,below⟩
  obtain ⟨index,⟨chunk,found,low,high⟩,unique⟩ := Laid.covers laid rank (Nat.zero_le _) wide
  obtain ⟨same,_⟩ := laid.chunk index chunk found
  have inRow : place < table.reaching (sortedRows table block.1) chunk.startColumn :=
    (lt_reaching (sortedRows_descending table block.1) _ place row here).mpr (by omega)
  have width : chunk.width =
      table.chunkWidth spec.effectiveSlots (sortedRows table block.1) chunk.startColumn := by
    conv_lhs => rw [same]
    rfl
  have height : chunk.height = table.reaching (sortedRows table block.1) chunk.startColumn := by
    conv_lhs => rw [same]
    rfl
  have division : ((rank - chunk.startColumn) * chunk.height + place) / chunk.height =
      rank - chunk.startColumn := by
    rw [Nat.mul_comm,Nat.mul_add_div (by omega),Nat.div_eq_of_lt (by omega),Nat.add_zero]
  have modulus : ((rank - chunk.startColumn) * chunk.height + place) % chunk.height = place := by
    rw [Nat.mul_comm,Nat.mul_add_mod,Nat.mod_eq_of_lt (by omega)]
  have inside : (rank - chunk.startColumn) * chunk.height + place < chunk.width * chunk.height := by
    have columns : rank - chunk.startColumn + 1 ≤ chunk.width := by omega
    calc (rank - chunk.startColumn) * chunk.height + place
        < (rank - chunk.startColumn) * chunk.height + chunk.height := by omega
      _ = (rank - chunk.startColumn + 1) * chunk.height := by rw [Nat.succ_mul]
      _ ≤ chunk.width * chunk.height := Nat.mul_le_mul_right _ columns
  refine ⟨(index,(rank - chunk.startColumn) * chunk.height + place),⟨chunk,found,?_,?_⟩,?_⟩
  · rw [width,height] at inside
    rw [height] at division modulus
    rw [height,same,blockChunk]
    rw [laidChunk_inside _ (by rw [← blockChunk,← same]; exact inside),rectangleLane]
    rw [← blockChunk,← same,modulus,division,here]
    simp only [Option.getD_some]
    rw [Nat.add_sub_cancel' low]
  · rw [ValueChunk.rank,division]
    omega
  · intro other ⟨chunk',lane,found',there,owned,ranked⟩
    obtain ⟨same',_⟩ := laid.chunk other.1 chunk' found'
    rw [same'] at there
    obtain ⟨inside',source,equal,here',_⟩ := blockChunk_owned _ _ _ lane row there owned
    have sameRow : source = row := by exact_mod_cast equal.symm
    subst sameRow
    have height' : chunk'.height = table.reaching (sortedRows table block.1) chunk'.startColumn := by
      conv_lhs => rw [same']
      rfl
    have width' : chunk'.width =
        table.chunkWidth spec.effectiveSlots (sortedRows table block.1) chunk'.startColumn := by
      conv_lhs => rw [same']
      rfl
    rw [← height',← width'] at inside'
    rw [← height'] at here'
    have reach : other.2 / chunk'.height < chunk'.width := Nat.div_lt_of_lt_mul (by rwa [Nat.mul_comm])
    rw [ValueChunk.rank] at ranked
    have sameIndex := unique other.1 ⟨chunk',found',ranked ▸ Nat.le_add_right _ _,
      ranked ▸ Nat.add_lt_add_left reach _⟩
    rw [sameIndex,found,Option.some.injEq] at found'
    subst found'
    have samePlace : other.2 % chunk.height = place :=
      (List.getElem?_inj (List.getElem?_eq_some_iff.mp here').1 (sortedRows_nodup table block.1)).mp
        (here'.trans here.symm)
    have slot := Nat.div_add_mod other.2 chunk.height
    refine Prod.ext sameIndex ?_
    rw [← slot,samePlace,← ranked,Nat.add_sub_cancel_left,Nat.mul_comm]

theorem BlockLaid.materializedWidth (laid : BlockLaid table spec componentId block chunks) (row : ℕ)
    (member : row ∈ sortedRows table block.1) :
    materializedWidth (laidBlock table componentId block chunks) row = table.capacity row := by
  refine le_antisymm (List.max_le_of_forall_le _ _ ?_) ?_
  · intro width inside
    obtain ⟨chunk,inBlock,inside⟩ := List.mem_flatMap.mp inside
    obtain ⟨⟨lane,slot⟩,inChunk,rfl⟩ := List.mem_map.mp inside
    dsimp only
    split
    · rename_i owned
      simp only [Bool.and_eq_true,beq_iff_eq] at owned
      obtain ⟨place,found⟩ := List.mem_iff_getElem?.mp inBlock
      obtain ⟨same,_⟩ := laid.chunk place chunk found
      have there := List.mk_mem_zipIdx_iff_getElem?.mp inChunk
      rw [same] at there
      obtain ⟨_,source,equal,_,stored⟩ := blockChunk_owned _ _ slot lane row there owned.2
      have sameRow : source = row := by exact_mod_cast equal.symm
      rw [← same,sameRow] at stored
      by_contra above
      have padded := laneAt_padding table row (chunk.rank slot) (by omega)
      rw [← stored] at padded
      rw [padded] at owned
      cases owned.1
    · exact Nat.zero_le _
  · rcases Nat.eq_zero_or_pos (table.capacity row) with none | some
    · omega
    · obtain ⟨spot,⟨chunk,found,stored,ranked⟩,_⟩ :=
        laid.held row (table.capacity row - 1) member (by omega)
      refine List.le_max_of_le (x := table.capacity row) (List.mem_flatMap.mpr
        ⟨chunk,List.mem_of_getElem? found,List.mem_map.mpr
          ⟨(_,spot.2),List.mk_mem_zipIdx_iff_getElem?.mpr stored,?_⟩⟩) le_rfl
      have materialized := laneAt_materialized table row (table.capacity row - 1) (by omega)
      dsimp only
      rw [materialized,laneAt_owner,ranked]
      simp
      omega

theorem Laid.tiles {blockId : String} {rows : List ℕ} {layout : OutputBlockLayout}
    (wide : maxWidth layout = table.widest rows) {column index : ℕ} {chunks : List ValueChunk}
    (laid : Laid table spec.effectiveSlots blockId rows column index chunks (table.widest rows)) :
    Tiles layout column chunks := by
  induction chunks generalizing column index with
  | nil => exact (show column = table.widest rows from laid).trans wide.symm
  | cons head chunks ih =>
    obtain ⟨first,_,rest⟩ := laid
    have width : head.width = table.chunkWidth spec.effectiveSlots rows column := by
      rw [first]
      rfl
    refine ⟨by rw [first]; rfl,?_⟩
    rw [width]
    exact ih rest

theorem BlockLaid.valid (laid : BlockLaid table spec componentId block chunks) (fits : table.Fits spec)
    (named : validId componentId = true) (bounded : block.1.2 ≤ spec.rows)
    (short : block.1.2 - block.1.1 ≤ spec.effectiveSlots) :
    BlockValid spec block.1 (laidBlock table componentId block chunks) := by
  refine ⟨numbered_valid componentId "-h" block.2 named (by decide),rfl,?_,?_,?_,?_,?_,Laid.tiles rfl laid,?_⟩
  · intro row
    rw [show (laidBlock table componentId block chunks).rowMap =
      (sortedRows table block.1).map fun row : ℕ => (row : ℤ) from rfl,List.mem_map]
    constructor
    · intro ⟨source,member,same⟩
      have within := (mem_sortedRows table block.1 source).mp member
      omega
    · intro within
      exact ⟨row.toNat,(mem_sortedRows table block.1 _).mpr (by omega),by omega⟩
  · exact (List.length_map _).trans (sortedRows_length table block.1)
  · exact (List.length_map _).trans (List.length_map _).symm
  · intro capacity member
    obtain ⟨row,_,rfl⟩ := List.mem_map.mp member
    exact fits.capacity row
  · intro chunk member
    obtain ⟨place,found⟩ := List.mem_iff_getElem?.mp member
    obtain ⟨same,beyond⟩ := laid.chunk place chunk found
    rw [same]
    exact blockChunk_valid chunks fits named bounded short _ _ beyond
  · rw [show (laidBlock table componentId block chunks).physicalRowCapacities =
      (sortedRows table block.1).map table.capacity from rfl,
      show (laidBlock table componentId block chunks).rowMap =
        (sortedRows table block.1).map fun row : ℕ => (row : ℤ) from rfl,List.map_map]
    exact List.map_congr_left fun row member => (laid.materializedWidth row member).symm

end Block

end DynamicCssc
