import DynamicCssc.PublishBlocks

/-! What `publish_component` asks of its arguments, and the rows, capacities and entries that such a
request lays out. -/
namespace DynamicCssc
open Foundation

/-- A mapping that `_validate_sparse_state` accepts. -/
structure SparseState.InRange (state : SparseState) (rows cols : ℤ) : Prop where
  distinct : (state.map Prod.fst).Nodup
  row : ∀ entry ∈ state, 0 ≤ entry.1.row ∧ entry.1.row < rows
  col : ∀ entry ∈ state, 0 ≤ entry.1.col ∧ entry.1.col < cols
  nonzero : ∀ entry ∈ state, entry.2 ≠ 0

def SparseState.rowCount (state : SparseState) (row : ℤ) : ℕ :=
  state.countP fun entry => entry.1.row = row

/-- The capacity of a row: its entry count, unless the request names one. -/
def requestedCapacity (state : SparseState) (physicalCapacities : Option (List ℤ)) (row : ℕ) : ℕ :=
  match physicalCapacities with
  | none => state.rowCount row
  | some capacities => ((capacities[row]?).getD 0).toNat

def requestTable (state : SparseState) (rows : ℤ) (physicalCapacities : Option (List ℤ)) : RowTable :=
  { entriesByRow := bucketEntries (Sorting.sortedBy Prod.fst state) rows.toNat
    capacities := (List.range rows.toNat).map (requestedCapacity state physicalCapacities) }

/-- What `publish_component` asks of its arguments. -/
structure PublishRequest (state : SparseState) (rows cols effectiveSlots : ℤ)
    (versionId componentPrefix : String) (partitionRows : Option ℤ)
    (physicalCapacities : Option (List ℤ)) : Prop where
  rows_pos : 0 < rows
  cols_pos : 0 < cols
  version : validId versionId = true
  component : validId componentPrefix = true
  partition_pos : 0 < partitionRows.getD effectiveSlots
  partition_fits : partitionRows.getD effectiveSlots ≤ effectiveSlots
  inRange : state.InRange rows cols
  capacity_count : ∀ capacities ∈ physicalCapacities, (capacities.length : ℤ) = rows
  capacity_range : ∀ capacities ∈ physicalCapacities, ∀ (row : ℕ) (capacity : ℤ),
    capacities[row]? = some capacity → state.rowCount row ≤ capacity ∧ capacity ≤ cols

section Request
variable {state : SparseState} {rows cols effectiveSlots : ℤ} {versionId componentPrefix : String}
  {partitionRows : Option ℤ} {physicalCapacities : Option (List ℤ)}

private theorem SparseState.InRange.rowCount_le (good : state.InRange rows cols) (positive : 0 < cols) (row : ℤ) :
    (state.rowCount row : ℤ) ≤ cols := by
  have columns : ((state.filter fun entry => entry.1.row = row).map fun entry => entry.1.col.toNat).Nodup := by
    have inRow := (List.Sublist.map Prod.fst (List.filter_sublist
      (p := fun entry : Coordinate × ℤ => decide (entry.1.row = row)) (l := state))).nodup good.distinct
    rw [List.Nodup,List.pairwise_map] at inRow ⊢
    refine inRow.imp_of_mem fun {left right} hl hr apart same => apart ?_
    obtain ⟨inLeft,rowLeft⟩ := List.mem_filter.mp hl
    obtain ⟨inRight,rowRight⟩ := List.mem_filter.mp hr
    have colLeft := good.col left inLeft
    have colRight := good.col right inRight
    simp only [decide_eq_true_eq] at rowLeft rowRight
    refine Coordinate.key_injective (congrArg toLex (Prod.ext (rowLeft.trans rowRight.symm) ?_))
    show left.1.col = right.1.col
    omega
  have within : ((state.filter fun entry => entry.1.row = row).map fun entry => entry.1.col.toNat) ⊆
      List.range cols.toNat := by
    intro column member
    obtain ⟨entry,inRow,rfl⟩ := List.mem_map.mp member
    have bounds := good.col entry (List.mem_of_mem_filter inRow)
    exact List.mem_range.mpr (by omega)
  have count := (List.subperm_of_subset columns within).length_le
  rw [List.length_map,← List.countP_eq_length_filter,List.length_range] at count
  rw [rowCount]
  omega

theorem requestTable_entries (row : ℕ) : (requestTable state rows physicalCapacities).entries row =
    if row < rows.toNat then ((Sorting.sortedBy Prod.fst state).filter fun entry =>
      entry.1.row = (row : ℤ)).map fun entry => (entry.1.col,entry.2) else [] := by
  rw [RowTable.entries,requestTable,bucketEntries,List.getElem?_map]
  split
  · rename_i inside
    rw [List.getElem?_range inside]
    rfl
  · rename_i outside
    rw [List.getElem?_eq_none (by simpa using outside)]
    rfl

theorem requestTable_capacity (row : ℕ) : (requestTable state rows physicalCapacities).capacity row =
    if row < rows.toNat then requestedCapacity state physicalCapacities row else 0 := by
  rw [RowTable.capacity,requestTable,List.getElem?_map]
  split
  · rename_i inside
    rw [List.getElem?_range inside]
    rfl
  · rename_i outside
    rw [List.getElem?_eq_none (by simpa using outside)]
    rfl

theorem bucket_length (row : ℤ) : ((Sorting.sortedBy Prod.fst state).filter fun entry =>
    entry.1.row = row).length = state.rowCount row := by
  rw [← List.countP_eq_length_filter]
  exact (Sorting.sortedBy_perm _ _).countP_eq _

def requestSpec (rows cols effectiveSlots : ℤ) (partitionRows : Option ℤ) : LayoutSpec :=
  ⟨rows.toNat,cols.toNat,effectiveSlots.toNat,(partitionRows.getD effectiveSlots).toNat⟩

namespace PublishRequest

variable (request : PublishRequest state rows cols effectiveSlots versionId componentPrefix partitionRows
  physicalCapacities)
include request

private theorem capacity_bounds (row : ℕ) (inside : row < rows.toNat) :
    state.rowCount row ≤ requestedCapacity state physicalCapacities row ∧
      requestedCapacity state physicalCapacities row ≤ cols.toNat := by
  have positive := request.cols_pos
  unfold requestedCapacity
  split
  · have count := request.inRange.rowCount_le positive row
    omega
  · rename_i capacities
    have length := request.capacity_count capacities rfl
    have found : capacities[row]? = some capacities[row] := List.getElem?_eq_getElem (by omega)
    have bounds := request.capacity_range capacities rfl row _ found
    rw [found,Option.getD_some]
    omega

theorem fits : (requestTable state rows physicalCapacities).Fits
    (requestSpec rows cols effectiveSlots partitionRows) := by
  refine ⟨?_,?_,?_⟩
  · intro row entry member
    rw [requestTable_entries] at member
    split at member
    · obtain ⟨source,inRow,rfl⟩ := List.mem_map.mp member
      have inState := (Sorting.mem_sortedBy _ _ _).mp (List.mem_of_mem_filter inRow)
      have column := request.inRange.col source inState
      refine ⟨request.inRange.nonzero source inState,column.1,?_⟩
      show source.1.col < (cols.toNat : ℤ)
      omega
    · simp at member
  · intro row
    rw [requestTable_entries,requestTable_capacity]
    split
    · rename_i inside
      rw [List.length_map,bucket_length]
      exact (request.capacity_bounds row inside).1
    · exact le_rfl
  · intro row
    rw [requestTable_capacity]
    split
    · rename_i inside
      exact (request.capacity_bounds row inside).2
    · exact Nat.zero_le _

theorem stateEntries_ok (validated : Bool) : stateEntries validated state rows.toNat cols.toNat =
    .ok (Sorting.sortedBy Prod.fst state) := by
  unfold stateEntries
  split
  · rfl
  · refine Checked.pass _ _ _ ((Checked.each_success _ _ _).mpr fun entry member => ?_) rfl
    have row := request.inRange.row entry member
    have col := request.inRange.col entry member
    refine Checked.pass _ _ _ (Checked.require_true _ _ (by omega)) ?_
    refine Checked.pass _ _ _ (Checked.require_true _ _ (by omega)) ?_
    exact Checked.require_true _ _ (request.inRange.nonzero entry member)

theorem checkedCapacities_ok :
    checkedCapacities (bucketEntries (Sorting.sortedBy Prod.fst state) rows.toNat) physicalCapacities
      rows.toNat cols.toNat = .ok (requestTable state rows physicalCapacities).capacities := by
  have actual : (bucketEntries (Sorting.sortedBy Prod.fst state) rows.toNat).map List.length =
      (List.range rows.toNat).map fun row : ℕ => state.rowCount row := by
    rw [bucketEntries,List.map_map]
    refine List.map_congr_left fun row _ => ?_
    rw [Function.comp_apply,List.length_map,bucket_length]
  unfold checkedCapacities
  split
  · rw [actual]
    rfl
  · rename_i capacities
    have length := request.capacity_count capacities rfl
    have positive := request.cols_pos
    refine Checked.pass _ _ _ (Checked.require_true _ _ (by omega)) ?_
    refine Checked.pass _ _ _ ((Checked.each_success _ _ _).mpr fun entry member => ?_) ?_
    · obtain ⟨⟨capacity,used⟩,row⟩ := entry
      have found := List.mk_mem_zipIdx_iff_getElem?.mp member
      rw [List.getElem?_zip_eq_some,actual,List.getElem?_map] at found
      obtain ⟨here,there⟩ := found
      obtain ⟨place,placed,rfl⟩ := Option.map_eq_some_iff.mp there
      have same : place = row := by
        rw [List.getElem?_range (by simpa using (List.getElem?_eq_some_iff.mp placed).1)] at placed
        exact (Option.some.inj placed).symm
      subst same
      have bounds := request.capacity_range capacities rfl place capacity here
      exact Checked.require_true _ _ (by dsimp only; omega)
    · refine congrArg Except.ok (List.ext_getElem? fun row => ?_)
      rw [requestTable]
      dsimp only
      by_cases inside : row < rows.toNat
      · rw [List.getElem?_map,List.getElem?_map,List.getElem?_range inside,
          List.getElem?_eq_getElem (by omega)]
        simp [requestedCapacity,List.getElem?_eq_getElem (show row < capacities.length by omega)]
      · rw [List.getElem?_eq_none (by rw [List.length_map]; omega),
          List.getElem?_eq_none (by rw [List.length_map,List.length_range]; omega)]

end PublishRequest

end Request

end DynamicCssc
