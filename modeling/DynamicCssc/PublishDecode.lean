import DynamicCssc.PublishValid

/-! What a published component decodes to: chunk by chunk a slice of the ranks of its rows, block by
block all entries of the rows, and over all blocks the state. -/
namespace DynamicCssc
open Foundation

def rowSlice (table : RowTable) (start width row : ℕ) : List (Coordinate × ℤ) :=
  (((table.entries row).drop start).take width).map fun entry => (⟨row,entry.1⟩,entry.2)

private theorem filterMap_range_getElem {α β : Type} (items : List α) (f : α → β) (count : ℕ) :
    ((List.range count).filterMap fun place => (items[place]?).map f) = (items.take count).map f := by
  induction count with
  | zero => simp
  | succ count ih =>
    rw [List.range_succ,List.filterMap_append,ih,List.take_add_one,List.map_append]
    cases held : items[count]? <;> simp [held]

private theorem flatMap_swap {α β γ : Type} (left : List α) (right : List β) (f : α → β → List γ) :
    (left.flatMap fun a => right.flatMap fun b => f a b).Perm
      (right.flatMap fun b => left.flatMap fun a => f a b) := by
  induction left with
  | nil => simp
  | cons head left ih =>
    simp only [List.flatMap_cons]
    exact (ih.append_left _).trans (List.flatMap_append_perm right _ _)

private theorem rowSlice_lanes {table : RowTable} {spec : LayoutSpec} (fits : table.Fits spec)
    (start width row : ℕ) :
    ((List.range width).filterMap fun offset => (laneAt table row (start + offset)).entry) =
      rowSlice table start width row := by
  rw [rowSlice,← filterMap_range_getElem]
  refine List.filterMap_congr fun offset _ => ?_
  rw [laneAt_value,List.getElem?_drop]
  split
  · rename_i beyond
    rw [List.getElem?_eq_none ((fits.used row).trans beyond)]
    rfl
  · rfl

private theorem laidChunk_entries {table : RowTable} {spec : LayoutSpec} (fits : table.Fits spec) (slots : ℕ)
    (blockId : String) (rowMap : List ℕ) (ordered : Descending table rowMap) (column index : ℕ) :
    (laidChunk table slots blockId rowMap column index).entries.Perm
      (rowMap.flatMap (rowSlice table column (table.chunkWidth slots rowMap column))) := by
  have scanned := laidChunk_scan table slots blockId rowMap column index (fun lane _ => lane.entry)
    (fun _ => rfl)
  have places : ((List.range (table.chunkWidth slots rowMap column *
      table.reaching rowMap column)).filterMap fun slot =>
        (rectangleLane table rowMap column (table.reaching rowMap column) slot).entry) =
      (List.range (table.chunkWidth slots rowMap column)).flatMap fun offset =>
        (List.range (table.reaching rowMap column)).flatMap fun place =>
          ((laneAt table ((rowMap[place]?).getD 0) (column + offset)).entry).toList := by
    have looped : ((List.range (table.chunkWidth slots rowMap column *
        table.reaching rowMap column)).filterMap fun slot =>
          (rectangleLane table rowMap column (table.reaching rowMap column) slot).entry) =
        (rectanglePlaces (table.chunkWidth slots rowMap column) (table.reaching rowMap column)).filterMap
          fun place => (laneAt table ((rowMap[place.2]?).getD 0) (column + place.1)).entry := by
      rw [rectanglePlaces_eq,List.filterMap_map]
      rfl
    rw [looped,rectanglePlaces,List.filterMap_flatMap]
    refine List.flatMap_congr fun offset _ => ?_
    rw [List.filterMap_map,List.filterMap_eq_flatMap_toList]
    rfl
  have short := @reaching_le table rowMap column
  have reached : (List.range (table.reaching rowMap column)).map (fun place => (rowMap[place]?).getD 0) =
      rowMap.take (table.reaching rowMap column) := by
    refine List.ext_getElem? fun place => ?_
    by_cases below : place < table.reaching rowMap column
    · rw [List.getElem?_map,List.getElem?_range below,List.getElem?_take,if_pos below,
        List.getElem?_eq_getElem (below.trans_le short),Option.map_some,
        List.getElem?_eq_getElem (below.trans_le short),Option.getD_some]
    · rw [List.getElem?_eq_none (by simpa using below),List.getElem?_eq_none (by simp; omega)]
  have beyond : (rowMap.drop (table.reaching rowMap column)).flatMap
      (rowSlice table column (table.chunkWidth slots rowMap column)) = [] := by
    rw [List.flatMap_eq_nil_iff]
    intro row member
    obtain ⟨place,found⟩ := List.mem_iff_getElem?.mp member
    rw [List.getElem?_drop] at found
    have stops := (lt_reaching ordered column _ row found).not.mp (by omega)
    have used := fits.used row
    rw [rowSlice,List.drop_eq_nil_of_le (by omega),List.take_nil,List.map_nil]
  rw [← entries_zipIdx,scanned,places]
  refine (flatMap_swap _ _ _).trans ?_
  rw [← List.take_append_drop (table.reaching rowMap column) rowMap,List.flatMap_append]
  rw [List.take_append_drop,beyond,List.append_nil,← reached,List.flatMap_map]
  refine List.Perm.of_eq (List.flatMap_congr fun place _ => ?_)
  rw [← rowSlice_lanes fits,List.filterMap_eq_flatMap_toList]

private theorem rowSlice_append (table : RowTable) (start first second row : ℕ) :
    rowSlice table start first row ++ rowSlice table (start + first) second row =
      rowSlice table start (first + second) row := by
  rw [rowSlice,rowSlice,rowSlice,← List.map_append,List.take_add,List.drop_drop]

theorem Laid.entries {table : RowTable} {spec : LayoutSpec} (fits : table.Fits spec) {slots : ℕ}
    {blockId : String} {rowMap : List ℕ} (ordered : Descending table rowMap) {column index stop : ℕ}
    {chunks : List ValueChunk} (laid : Laid table slots blockId rowMap column index chunks stop) :
    column ≤ stop ∧ (chunks.flatMap ValueChunk.entries).Perm
      (rowMap.flatMap (rowSlice table column (stop - column))) := by
  induction chunks generalizing column index with
  | nil =>
    have start : column = stop := laid
    have empty : rowMap.flatMap (rowSlice table stop 0) = [] := by
      rw [List.flatMap_eq_nil_iff]
      intro row _
      rw [rowSlice,List.take_zero,List.map_nil]
    rw [start,Nat.sub_self,empty]
    exact ⟨le_rfl,List.Perm.refl _⟩
  | cons head chunks ih =>
    obtain ⟨first,_,rest⟩ := laid
    obtain ⟨before,others⟩ := ih rest
    refine ⟨by omega,?_⟩
    have width : stop - column = table.chunkWidth slots rowMap column +
        (stop - (column + table.chunkWidth slots rowMap column)) := by omega
    have joined : rowMap.flatMap (rowSlice table column (stop - column)) = rowMap.flatMap fun row =>
        rowSlice table column (table.chunkWidth slots rowMap column) row ++
          rowSlice table (column + table.chunkWidth slots rowMap column)
            (stop - (column + table.chunkWidth slots rowMap column)) row := by
      refine List.flatMap_congr fun row _ => ?_
      rw [rowSlice_append,← width]
    rw [List.flatMap_cons,joined,first]
    exact ((laidChunk_entries fits slots blockId rowMap ordered column index).append others).trans
      (List.flatMap_append_perm rowMap _ _)

def rowEntries (table : RowTable) (row : ℕ) : List (Coordinate × ℤ) :=
  (table.entries row).map fun entry => (⟨row,entry.1⟩,entry.2)

theorem BlockLaid.entries {table : RowTable} {spec : LayoutSpec} (fits : table.Fits spec)
    {componentId : String} {block : (ℕ × ℕ) × ℕ} {chunks : List ValueChunk}
    (laid : BlockLaid table spec componentId block chunks) :
    (laidBlock table componentId block chunks).entries.Perm
      ((List.range' block.1.1 (block.1.2 - block.1.1)).flatMap (rowEntries table)) := by
  have held := (Laid.entries fits (sortedRows_descending table block.1) laid).2
  have whole : (sortedRows table block.1).flatMap
      (rowSlice table 0 (table.widest (sortedRows table block.1) - 0)) =
      (sortedRows table block.1).flatMap (rowEntries table) := by
    refine List.flatMap_congr fun row member => ?_
    have used := fits.used row
    have wide : table.capacity row ≤ table.widest (sortedRows table block.1) :=
      List.le_max_of_le (List.mem_map_of_mem member) le_rfl
    rw [rowSlice,rowEntries,List.drop_zero,List.take_of_length_le (by omega)]
  rw [whole] at held
  exact held.trans ((sortedRows_perm table block.1).flatMap_right _)

theorem blockRanges_rows (spec : LayoutSpec) (partition : 0 < spec.partitionRows) :
    (blockRanges spec).flatMap (fun range => List.range' range.1 (range.2 - range.1)) =
      List.range spec.rows := by
  have part (count : ℕ) : ((List.range count).map fun index =>
      (index * spec.partitionRows,min spec.rows (index * spec.partitionRows + spec.partitionRows))).flatMap
        (fun range => List.range' range.1 (range.2 - range.1)) =
      List.range (min spec.rows (count * spec.partitionRows)) := by
    induction count with
    | zero => simp
    | succ count ih =>
      rw [List.range_succ,List.map_append,List.flatMap_append,ih,List.map_singleton,List.flatMap_singleton,
        Nat.succ_mul]
      rcases Nat.le_total spec.rows (count * spec.partitionRows) with past | before
      · rw [min_eq_left past,min_eq_left (by omega),
          show spec.rows - count * spec.partitionRows = 0 by omega]
        simp
      · rw [min_eq_right before,List.range_eq_range',List.range_eq_range']
        have next := List.range'_append_1 (s := 0) (m := count * spec.partitionRows)
          (n := min spec.rows (count * spec.partitionRows + spec.partitionRows) - count * spec.partitionRows)
        rw [Nat.zero_add] at next
        rw [next]
        congr 1
        omega
  rw [blockRanges,part,min_eq_left]
  have enough := Nat.lt_div_mul_add (a := spec.rows + spec.partitionRows - 1) partition
  omega

/-- The entries of the rows, bucket by bucket, are the entries. -/
theorem bucketEntries_perm (entries : List (Coordinate × ℤ)) (rows : ℕ)
    (inside : ∀ entry ∈ entries, 0 ≤ entry.1.row ∧ entry.1.row < rows) :
    ((List.range rows).flatMap fun row : ℕ => entries.filter fun entry => entry.1.row = (row : ℤ)).Perm
      entries := by
  have part (count : ℕ) :
      ((List.range count).flatMap fun row : ℕ => entries.filter fun entry => entry.1.row = (row : ℤ)).Perm
        (entries.filter fun entry => 0 ≤ entry.1.row ∧ entry.1.row < count) := by
    induction count with
    | zero =>
      rw [List.range_zero,List.flatMap_nil,List.filter_eq_nil_iff.mpr]
      intro entry _
      simp only [decide_eq_true_eq]
      omega
    | succ count ih =>
      rw [List.range_succ,List.flatMap_append,List.flatMap_singleton]
      have split := List.filter_append_perm (fun entry : Coordinate × ℤ => decide (entry.1.row < count))
        (entries.filter fun entry => 0 ≤ entry.1.row ∧ entry.1.row < (count + 1 : ℕ))
      refine List.Perm.trans ?_ split
      rw [List.filter_filter,List.filter_filter]
      refine List.Perm.append (ih.trans (List.Perm.of_eq (List.filter_congr fun entry _ => ?_)))
        (List.Perm.of_eq (List.filter_congr fun entry _ => ?_))
      · rw [← Bool.decide_and]
        congr 1
        simp only [eq_iff_iff]
        omega
      · rw [← decide_not,← Bool.decide_and]
        congr 1
        simp only [eq_iff_iff]
        omega
  have all : (entries.filter fun entry => 0 ≤ entry.1.row ∧ entry.1.row < (rows : ℤ)) = entries := by
    rw [List.filter_eq_self]
    intro entry member
    simpa using inside entry member
  exact (part rows).trans (List.Perm.of_eq all)

end DynamicCssc
