import DynamicCssc.Cssc
import DynamicCssc.QueryNames
import DynamicCssc.Foundation.Loop

/-! `publish_component`: the rows of a sparse state are cut into blocks, every block is sorted by
capacity and stored chunk by chunk, each chunk as wide as its rows allow. -/
namespace DynamicCssc
open Foundation

/-- A sparse matrix, as a mapping from coordinates to values. -/
abbrev SparseState := List (Coordinate × ℤ)

/-- What the layout reads of a state: the entries and the capacity of every row. -/
structure RowTable where
  entriesByRow : List (List (ℤ × ℤ))
  capacities : List ℕ
deriving DecidableEq, Repr

namespace RowTable

def entries (table : RowTable) (row : ℕ) : List (ℤ × ℤ) := (table.entriesByRow[row]?).getD []
def capacity (table : RowTable) (row : ℕ) : ℕ := (table.capacities[row]?).getD 0

end RowTable

def requirePositiveInt (value : ℤ) (field : String) : Checked ℕ := do
  Checked.require (0 < value) ⟨.valueError,field ++ " must be a positive integer"⟩
  return value.toNat

def validateSparseState (state : SparseState) (rows cols : ℕ) : Checked (List (Coordinate × ℤ)) := do
  Checked.each (fun entry : Coordinate × ℤ => do
    Checked.require (0 ≤ entry.1.row ∧ entry.1.row < rows)
      ⟨.valueError,"state row is outside the matrix"⟩
    Checked.require (0 ≤ entry.1.col ∧ entry.1.col < cols)
      ⟨.valueError,"state global column is outside the matrix"⟩
    Checked.require (entry.2 ≠ 0) ⟨.valueError,"state values must be nonzero integers"⟩) state
  return Sorting.sortedBy Prod.fst state

/-- The entries in order; with the capability to skip the check of the state they are only sorted. -/
def stateEntries (validated : Bool) (state : SparseState) (rows cols : ℕ) :
    Checked (List (Coordinate × ℤ)) :=
  if validated then .ok (Sorting.sortedBy Prod.fst state) else validateSparseState state rows cols

/-- `entries_by_row`. -/
def bucketEntries (entries : List (Coordinate × ℤ)) (rows : ℕ) : List (List (ℤ × ℤ)) :=
  (List.range rows).map fun row : ℕ => (entries.filter fun entry => entry.1.row = (row : ℤ)).map fun entry =>
    (entry.1.col,entry.2)

/-- `_physical_capacities`. -/
def checkedCapacities (entriesByRow : List (List (ℤ × ℤ))) (physicalCapacities : Option (List ℤ))
    (rows cols : ℕ) : Checked (List ℕ) :=
  let actual := entriesByRow.map List.length
  match physicalCapacities with
  | none => .ok actual
  | some capacities => do
    Checked.require (capacities.length = rows)
      ⟨.valueError,"physical_capacities must have exactly one entry per row"⟩
    Checked.each (fun entry : (ℤ × ℕ) × ℕ =>
      Checked.require (entry.1.2 ≤ entry.1.1 ∧ entry.1.1 ≤ cols)
        ⟨.valueError,s!"physical capacity for row {entry.2} must be an integer in [{entry.1.2}, {cols}]"⟩)
      (capacities.zip actual).zipIdx
    return capacities.map Int.toNat

/-- The lanes and the counters of one chunk while its rectangle is filled. -/
structure ChunkDraft where
  lanes : List Lane
  placements : List (Coordinate × SlotLocation)
  availableSlots : List (ℤ × LaneKind × SlotLocation)
  usedSlots : ℕ
  reservedSlots : ℕ
deriving DecidableEq, Repr

def tailLane : Lane := ⟨0,-1,none,none,.tail⟩

/-- The body of the inner loop, at `(local_column, physical_row)`. -/
def placeLane (table : RowTable) (rowMap : List ℕ) (componentId chunkId : String) (column height : ℕ)
    (draft : ChunkDraft) (place : ℕ × ℕ) : ChunkDraft :=
  let rank := column + place.1
  let logicalRow := (rowMap[place.2]?).getD 0
  let slot := place.1 * height + place.2
  let location : SlotLocation := ⟨componentId,chunkId,slot⟩
  if table.capacity logicalRow ≤ rank then
    { draft with
      lanes := draft.lanes.set slot ⟨0,-1,none,some logicalRow,.naturalPadding⟩
      availableSlots := draft.availableSlots ++ [((logicalRow : ℤ),.naturalPadding,location)] }
  else match (table.entries logicalRow)[rank]? with
  | none =>
    { draft with
      lanes := draft.lanes.set slot ⟨0,-1,none,some logicalRow,.reserved⟩
      availableSlots := draft.availableSlots ++ [((logicalRow : ℤ),.reserved,location)]
      reservedSlots := draft.reservedSlots + 1 }
  | some (globalCol,value) =>
    { draft with
      lanes := draft.lanes.set slot ⟨value,globalCol,some ⟨logicalRow,globalCol⟩,some logicalRow,.actual⟩
      placements := draft.placements ++ [(⟨logicalRow,globalCol⟩,location)]
      usedSlots := draft.usedSlots + 1 }

/-- The two nested loops over a rectangle, column by column. -/
def rectanglePlaces (width height : ℕ) : List (ℕ × ℕ) :=
  (List.range width).flatMap fun localColumn => (List.range height).map fun physicalRow =>
    (localColumn,physicalRow)

structure BlockDraft where
  column : ℕ
  chunkIndex : ℕ
  chunks : List ValueChunk
  placements : List (Coordinate × SlotLocation)
  availableSlots : List (ℤ × LaneKind × SlotLocation)
deriving DecidableEq, Repr

/-- The body of `while column < max_width`. -/
def publishChunk (table : RowTable) (effectiveSlots : ℕ) (componentId outputBlockId : String)
    (rowMap physicalRowCapacities : List ℕ) (draft : BlockDraft) : Checked BlockDraft := do
  let height := physicalRowCapacities.countP fun capacity => draft.column < capacity
  Checked.require (height ≠ 0) ⟨.zeroDivisionError,"integer division or modulo by zero"⟩
  let width := min (physicalRowCapacities.foldr max 0 - draft.column) (effectiveSlots / height)
  let chunkId := outputBlockId ++ "-c" ++ sixDigits draft.chunkIndex
  let filled := (rectanglePlaces width height).foldl
    (placeLane table rowMap componentId chunkId draft.column height)
    { lanes := List.replicate effectiveSlots tailLane
      placements := draft.placements
      availableSlots := draft.availableSlots
      usedSlots := 0
      reservedSlots := 0 }
  return {
    column := draft.column + width
    chunkIndex := draft.chunkIndex + 1
    chunks := draft.chunks ++ [{
      chunkId := chunkId
      startColumn := draft.column
      width := width
      height := height
      usedSlots := filled.usedSlots
      reservedSlots := filled.reservedSlots
      rectangularSlots := height * width
      lanes := filled.lanes }]
    placements := filled.placements
    availableSlots := filled.availableSlots }

structure ComponentDraft where
  blocks : List OutputBlockLayout
  placements : List (Coordinate × SlotLocation)
  availableSlots : List (ℤ × LaneKind × SlotLocation)
deriving DecidableEq, Repr

/-- The rows of a block, the roomiest first. -/
def sortedRows (table : RowTable) (range : ℕ × ℕ) : List ℕ :=
  Sorting.sortedBy (fun row : ℕ => (toLex (-(table.capacity row : ℤ),row) : ℤ ×ₗ ℕ))
    (List.range' range.1 (range.2 - range.1))

/-- The body of the loop over the blocks. -/
def publishBlock (rounds : ℕ) (table : RowTable) (effectiveSlots : ℕ) (componentId : String)
    (draft : ComponentDraft) (block : (ℕ × ℕ) × ℕ) : Checked ComponentDraft := do
  let rowMap := sortedRows table block.1
  let physicalRowCapacities := rowMap.map table.capacity
  let outputBlockId := componentId ++ "-h" ++ sixDigits block.2
  let laid ← Loop.run (fun draft : BlockDraft => draft.column < physicalRowCapacities.foldr max 0)
    (publishChunk table effectiveSlots componentId outputBlockId rowMap physicalRowCapacities)
    ⟨.nonTermination,"the chunks of a block do not end"⟩ rounds
    { column := 0
      chunkIndex := 0
      chunks := []
      placements := draft.placements
      availableSlots := draft.availableSlots }
  return {
    blocks := draft.blocks ++ [{
      outputBlockId := outputBlockId
      logicalRowStart := block.1.1
      logicalRowStop := block.1.2
      rowMap := rowMap.map fun row : ℕ => (row : ℤ)
      physicalRowCapacities := physicalRowCapacities
      chunks := laid.chunks }]
    placements := laid.placements
    availableSlots := laid.availableSlots }

/-- `publish_component`; `validated` says whether the caller holds the capability to skip the check of
the state, and `rounds` bounds the chunks of a block. -/
def publishComponent (rounds : ℕ) (validated : Bool) (state : SparseState) (rows cols effectiveSlots : ℤ)
    (versionId componentPrefix : String) (partitionRows : Option ℤ)
    (physicalCapacities : Option (List ℤ)) : Checked PublishedComponent := do
  let rowCount ← requirePositiveInt rows "rows"
  let colCount ← requirePositiveInt cols "cols"
  let slotCount ← requirePositiveInt effectiveSlots "effective_slots"
  requireId .valueError versionId "version_id"
  requireId .valueError componentPrefix "component_prefix"
  let partition := partitionRows.getD effectiveSlots
  Checked.require (0 < partition ∧ partition ≤ effectiveSlots)
    ⟨.valueError,"partition_rows must be in (0, effective_slots]"⟩
  let entries ← stateEntries validated state rowCount colCount
  let entriesByRow := bucketEntries entries rowCount
  let capacities ← checkedCapacities entriesByRow physicalCapacities rowCount colCount
  let spec : LayoutSpec := ⟨rowCount,colCount,slotCount,partition.toNat⟩
  let laid ← (blockRanges spec).zipIdx.foldlM
    (publishBlock rounds ⟨entriesByRow,capacities⟩ slotCount componentPrefix) ⟨[],[],[]⟩
  return {
    componentId := componentPrefix
    versionId := versionId
    layoutSpec := spec
    blocks := laid.blocks
    coordinateSlots := Sorting.sortedBy Prod.fst laid.placements
    availableSlots := laid.availableSlots }

end DynamicCssc
