import DynamicCssc.Foundation.PyNumber
import DynamicCssc.QueryCompiler

/-! The sources of a query with the numbers that `_validated_sources` compares by `==` or orders only:
the rows and places of a component and the places and owners of the delta's segments. Such a number may be
a boolean or a float. Every other number of the sources is tested to be of the class `int`. -/
namespace DynamicCssc.Raw
open Foundation

structure Lane where
  value : ℤ
  column : ℤ
  coordinate : Option (PyNumber × PyNumber)
  owner : Option PyNumber
  kind : LaneKind
deriving DecidableEq, Repr

structure ValueChunk where
  chunkId : String
  startColumn : ℕ
  width : ℕ
  height : ℕ
  usedSlots : ℕ
  reservedSlots : ℕ
  rectangularSlots : ℕ
  lanes : List Lane
deriving DecidableEq, Repr

structure OutputBlockLayout where
  outputBlockId : String
  logicalRowStart : PyNumber
  logicalRowStop : PyNumber
  rowMap : List PyNumber
  physicalRowCapacities : List ℕ
  chunks : List ValueChunk
deriving DecidableEq, Repr

structure SlotLocation where
  componentId : String
  chunkId : String
  slot : PyNumber
deriving DecidableEq, Repr

structure PublishedComponent where
  componentId : String
  versionId : String
  layoutSpec : LayoutSpec
  blocks : List OutputBlockLayout
  coordinateSlots : List ((PyNumber × PyNumber) × SlotLocation)
  availableSlots : List (PyNumber × LaneKind × SlotLocation)
deriving DecidableEq, Repr

structure StrongSegment where
  segmentId : String
  segmentOrdinal : PyNumber
  pageOrdinal : PyNumber
  slotStart : PyNumber
  ownerRow : PyNumber
  entries : List (Option StrongEntry)
deriving DecidableEq, Repr

structure SegmentedDeltaState where
  rows : ℕ
  cols : ℕ
  effectiveSlots : ℕ
  segmentWidth : ℕ
  matrixValueBound : ℕ
  versionId : String
  segments : List StrongSegment
deriving DecidableEq, Repr

structure QuerySources where
  components : List PublishedComponent
  segmentedDelta : Option SegmentedDeltaState
  clientLaneSegments : List PackedCOOSegment
  f1mPolicy : F1MPolicy
deriving DecidableEq, Repr

/-! The sources by the values of their numbers. -/

def readCoordinate (coordinate : PyNumber × PyNumber) : Coordinate :=
  ⟨coordinate.1.whole,coordinate.2.whole⟩

def Lane.read (lane : Lane) : DynamicCssc.Lane :=
  ⟨lane.value,lane.column,lane.coordinate.map readCoordinate,lane.owner.map PyNumber.whole,lane.kind⟩

def ValueChunk.read (chunk : ValueChunk) : DynamicCssc.ValueChunk :=
  ⟨chunk.chunkId,chunk.startColumn,chunk.width,chunk.height,chunk.usedSlots,chunk.reservedSlots,
    chunk.rectangularSlots,chunk.lanes.map Lane.read⟩

def OutputBlockLayout.read (block : OutputBlockLayout) : DynamicCssc.OutputBlockLayout :=
  ⟨block.outputBlockId,block.logicalRowStart.whole.toNat,block.logicalRowStop.whole.toNat,
    block.rowMap.map PyNumber.whole,block.physicalRowCapacities,block.chunks.map ValueChunk.read⟩

def SlotLocation.read (location : SlotLocation) : DynamicCssc.SlotLocation :=
  ⟨location.componentId,location.chunkId,location.slot.whole.toNat⟩

def PublishedComponent.read (component : PublishedComponent) : DynamicCssc.PublishedComponent :=
  ⟨component.componentId,component.versionId,component.layoutSpec,component.blocks.map OutputBlockLayout.read,
    component.coordinateSlots.map fun entry => (readCoordinate entry.1,entry.2.read),
    component.availableSlots.map fun entry => (entry.1.whole,entry.2.1,entry.2.2.read)⟩

def StrongSegment.read (segment : StrongSegment) : DynamicCssc.StrongSegment :=
  ⟨segment.segmentId,segment.segmentOrdinal.whole.toNat,segment.pageOrdinal.whole.toNat,
    segment.slotStart.whole.toNat,segment.ownerRow.whole,segment.entries⟩

def SegmentedDeltaState.read (state : SegmentedDeltaState) : DynamicCssc.SegmentedDeltaState :=
  ⟨state.rows,state.cols,state.effectiveSlots,state.segmentWidth,state.matrixValueBound,state.versionId,
    state.segments.map StrongSegment.read⟩

def QuerySources.read (sources : QuerySources) : DynamicCssc.QuerySources :=
  ⟨sources.components.map PublishedComponent.read,sources.segmentedDelta.map SegmentedDeltaState.read,
    sources.clientLaneSegments,sources.f1mPolicy⟩

/-! `_validate_component`. -/

def Lane.numbers (lane : Lane) : List PyNumber :=
  lane.owner.toList ++ lane.coordinate.toList.flatMap fun coordinate => [coordinate.1,coordinate.2]

def OutputBlockLayout.numbers (block : OutputBlockLayout) : List PyNumber :=
  [block.logicalRowStart,block.logicalRowStop] ++ block.rowMap ++
    block.chunks.flatMap fun chunk => chunk.lanes.flatMap Lane.numbers

/-- The numbers of a component of which no class is asked. -/
def PublishedComponent.numbers (component : PublishedComponent) : List PyNumber :=
  component.blocks.flatMap OutputBlockLayout.numbers ++
    component.coordinateSlots.flatMap (fun entry => [entry.1.1,entry.1.2,entry.2.slot]) ++
    component.availableSlots.flatMap fun entry => [entry.1,entry.2.2.slot]

/-- `_validate_component` compares each of these numbers with a natural number and raises one error
whatever differs, so it goes by their values. -/
def validateComponent (component : PublishedComponent) : Checked Unit :=
  Checked.require ((∀ number ∈ component.numbers, number.isNatural = true) ∧ ComponentValid component.read)
    (compilerError "PublishedComponent is invalid")

/-! The delta. -/
namespace SegmentedDeltaState

def segmentsPerPage (state : SegmentedDeltaState) : ℕ := state.effectiveSlots / state.segmentWidth

/-- The checks of `_assert_state_invariants` on one entry, whose own numbers are of the class `int`. -/
def assertEntry (state : SegmentedDeltaState) (segment : StrongSegment) (entry : StrongEntry) :
    Checked Unit := do
  Checked.require ((0 ≤ entry.row ∧ entry.row < state.rows) ∧ (0 ≤ entry.col ∧ entry.col < state.cols) ∧
      entry.value.natAbs ≤ state.matrixValueBound)
    (DynamicCssc.SegmentedDeltaState.deltaError "segment entry is outside the state bounds")
  Checked.require ((entry.row : ℚ) = segment.ownerRow.value)
    (DynamicCssc.SegmentedDeltaState.deltaError "one segment must belong to one logical row")

def assertSegment (state : SegmentedDeltaState) (place : StrongSegment × ℕ) : Checked Unit := do
  let segment := place.1
  let ordinal := place.2
  Checked.require (segment.segmentOrdinal.value = (ordinal : ℚ) ∧ segment.segmentId = strongSegmentId ordinal)
    (DynamicCssc.SegmentedDeltaState.deltaError "segment IDs must encode only the physical ordinal")
  Checked.require (segment.pageOrdinal.value = ((ordinal / state.segmentsPerPage : ℕ) : ℚ))
    (DynamicCssc.SegmentedDeltaState.deltaError "segment page must match its physical ordinal")
  Checked.require (segment.slotStart.value =
      (((ordinal % state.segmentsPerPage) * state.segmentWidth : ℕ) : ℚ))
    (DynamicCssc.SegmentedDeltaState.deltaError "segment leader lane must match its physical ordinal")
  Checked.require (segment.entries.length = state.segmentWidth)
    (DynamicCssc.SegmentedDeltaState.deltaError "segments must have the frozen fixed width")
  Checked.require (0 ≤ segment.ownerRow.value ∧ segment.ownerRow.value < (state.rows : ℚ))
    (DynamicCssc.SegmentedDeltaState.deltaError "segment owner is outside the matrix")
  Checked.each (assertEntry state segment) (segment.entries.filterMap id)

def activeEntries (state : SegmentedDeltaState) : List StrongEntry :=
  DynamicCssc.SegmentedDeltaState.activeEntries state.read.segments

def assertStateInvariants (state : SegmentedDeltaState) : Checked Unit := do
  Checked.require (0 < state.rows ∧ 0 < state.cols ∧ 0 < state.effectiveSlots ∧
      0 < state.matrixValueBound)
    (DynamicCssc.SegmentedDeltaState.deltaError "state dimensions and value bound must be positive integers")
  Checked.require (2 ≤ state.segmentWidth ∧ state.segmentWidth ≤ state.effectiveSlots ∧
      state.segmentWidth &&& (state.segmentWidth - 1) = 0)
    (DynamicCssc.SegmentedDeltaState.deltaError "state segment width must be a fitting power of two")
  Checked.require (validId state.versionId = true)
    (DynamicCssc.SegmentedDeltaState.deltaError "state version ID is invalid")
  Checked.each (assertSegment state) state.segments.zipIdx
  Checked.require (state.activeEntries.map StrongEntry.coordinate).Nodup
    (DynamicCssc.SegmentedDeltaState.deltaError "active delta coordinates must be unique")

/-- `decode_segmented_delta`. -/
def decode (state : SegmentedDeltaState) : Checked (List (Coordinate × ℤ)) := do
  assertStateInvariants state
  Checked.require (state.activeEntries.map StrongEntry.coordinate).Nodup
    (DynamicCssc.SegmentedDeltaState.deltaError "active delta coordinates must be unique")
  return state.activeEntries.map fun entry => (entry.coordinate,entry.value)

end SegmentedDeltaState

/-! `_validated_sources`. -/

def validateDelta (reference : PublishedComponent) (components : List PublishedComponent)
    (coordinates : List Coordinate) (delta : SegmentedDeltaState) : Checked Unit :=
  match delta.decode with
  | .error _ => .error (compilerError "segmented_delta is invalid")
  | .ok decoded => do
    Checked.require (delta.versionId = reference.versionId)
      (compilerError "all sources must have the same version_id")
    Checked.require ((delta.rows,delta.cols,delta.effectiveSlots) = reference.layoutSpec.dimensions)
      (compilerError "all sources must have the same matrix and slot dimensions")
    Checked.require (∀ component ∈ components, component.componentId ≠ strongComponentId)
      (compilerError "component ID collides with segmented delta")
    Checked.require (∀ entry ∈ decoded, entry.1 ∉ coordinates) overlapError

def validateDeltaSource (reference : PublishedComponent) (components : List PublishedComponent)
    (coordinates : List Coordinate) : Option SegmentedDeltaState → Checked Unit
  | none => .ok ()
  | some delta => validateDelta reference components coordinates delta

def validatedSources (sources : QuerySources) : Checked QuerySources := do
  Checked.require (sources.components ≠ []) (compilerError "components must be a non-empty tuple")
  Checked.require (sources.segmentedDelta = none ∨ sources.clientLaneSegments = [])
    (compilerError "segmented_delta and client_lane_segments are mutually exclusive")
  let components := Sorting.sortedBy PublishedComponent.componentId sources.components
  Checked.require (components.map PublishedComponent.componentId).Nodup
    (compilerError "component IDs must be unique")
  Checked.each validateComponent components
  match components with
  | [] => .error (compilerError "components must be a non-empty tuple")
  | reference :: _ => do
    Checked.require (∀ component ∈ components, component.versionId = reference.versionId)
      (compilerError "all sources must have the same version_id")
    Checked.require (∀ component ∈ components,
        component.layoutSpec.dimensions = reference.layoutSpec.dimensions)
      (compilerError "all sources must have the same matrix and slot dimensions")
    let coordinates ← components.foldlM (fun coordinates component =>
      addCoordinates coordinates component.read.coordinates) []
    validateDeltaSource reference components coordinates sources.segmentedDelta
    let segments := Sorting.sortedBy PackedCOOSegment.segmentId sources.clientLaneSegments
    Checked.require (segments.map PackedCOOSegment.segmentId).Nodup
      (compilerError "client-lane segment IDs must be unique")
    Checked.require (segments ≠ [] →
        ∀ component ∈ components, component.componentId ≠ clientLaneComponentId)
      (compilerError "component ID collides with client-lane source")
    let _ ← segments.foldlM (validateLaneSegment reference.read) coordinates
    return { sources with components := components, clientLaneSegments := segments }

end DynamicCssc.Raw
