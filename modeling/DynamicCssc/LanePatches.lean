import DynamicCssc.PublishedComponents
import DynamicCssc.Foundation.Bisect

/-! `_patch_lanes` of `strategy_state`: the lane changes of one window, applied to the chunks of a
component and to its two sorted indexes. -/
namespace DynamicCssc
open Foundation

structure LanePatch where
  location : SlotLocation
  originalCoordinate : Option Coordinate
  originalKind : LaneKind
  ownerRow : ℤ
  coordinate : Option Coordinate
  value : ℤ
  columnIndex : ℤ
  kind : LaneKind
deriving DecidableEq, Repr

def availableSlotKey (item : ℤ × LaneKind × SlotLocation) : String ×ₗ ℕ :=
  toLex (item.2.2.chunkId,item.2.2.slot)

namespace LanePatches

def assertion (message : String) : Failure := ⟨.assertionError,message⟩

/-- The error of a search in `_available_slots` that does not find its lane. -/
def lookupFailure : Failure := assertion "available-lane index does not name the patched lane"

/-- The place of a coordinate in `_coordinate_slots`. -/
def coordinateIndex (coordinate : Coordinate) (slots : List (Coordinate × SlotLocation)) : ℕ :=
  Bisect.left (fun entry => decide (entry.1 < coordinate)) slots

def takeCoordinate (patch : LanePatch) (slots : List (Coordinate × SlotLocation)) :
    Checked (List (Coordinate × SlotLocation)) :=
  match patch.originalCoordinate with
  | none => .ok slots
  | some original =>
    if slots[coordinateIndex original slots]? = some (original,patch.location) then
      .ok (slots.eraseIdx (coordinateIndex original slots))
    else .error (assertion "coordinate index does not name the patched lane")

def putCoordinate (patch : LanePatch) (slots : List (Coordinate × SlotLocation)) :
    Checked (List (Coordinate × SlotLocation)) :=
  match patch.coordinate with
  | none => .ok slots
  | some coordinate =>
    if (slots[coordinateIndex coordinate slots]?).map Prod.fst = some coordinate then
      .error (assertion "patched coordinate already has a physical lane")
    else .ok (slots.insertIdx (coordinateIndex coordinate slots) (coordinate,patch.location))

/-- The lane of the patch leaves and enters `_coordinate_slots`. -/
def patchCoordinates (patch : LanePatch) (slots : List (Coordinate × SlotLocation)) :
    Checked (List (Coordinate × SlotLocation)) :=
  if patch.originalCoordinate = patch.coordinate then .ok slots
  else takeCoordinate patch slots >>= putCoordinate patch

/-- The place of a lane in `_available_slots`. -/
def availableIndex (item : ℤ × LaneKind × SlotLocation) (slots : List (ℤ × LaneKind × SlotLocation)) : ℕ :=
  Bisect.left (fun other => decide (availableSlotKey other < availableSlotKey item)) slots

def takeAvailable (patch : LanePatch) (slots : List (ℤ × LaneKind × SlotLocation)) :
    Checked (List (ℤ × LaneKind × SlotLocation)) :=
  let index := availableIndex (patch.ownerRow,patch.originalKind,patch.location) slots
  if patch.originalKind.available = true then
    if (slots[index]?).map (fun item => item.2.2) = some patch.location then .ok (slots.eraseIdx index)
    else .error lookupFailure
  else .ok slots

def putAvailable (patch : LanePatch) (slots : List (ℤ × LaneKind × SlotLocation)) :
    List (ℤ × LaneKind × SlotLocation) :=
  let item := (patch.ownerRow,patch.kind,patch.location)
  if patch.kind.available = true then slots.insertIdx (availableIndex item slots) item else slots

/-- The lane of the patch leaves and enters `_available_slots`. -/
def patchAvailable (patch : LanePatch) (slots : List (ℤ × LaneKind × SlotLocation)) :
    Checked (List (ℤ × LaneKind × SlotLocation)) := do
  let slots ← takeAvailable patch slots
  return putAvailable patch slots

/-- What the loops carry: the two indexes and the chunks found so far. -/
structure PatchState where
  coordinateSlots : List (Coordinate × SlotLocation)
  availableSlots : List (ℤ × LaneKind × SlotLocation)
  foundChunks : List String
deriving DecidableEq, Repr

/-- One lane of a chunk: its new content, the rows whose capacity grows, and the indexes. -/
def patchLane (effectiveSlots : ℕ) (state : List Lane × List ℤ × PatchState) (patch : LanePatch) :
    Checked (List Lane × List ℤ × PatchState) := do
  let (lanes,increments,indexes) := state
  Checked.require (patch.location.slot < effectiveSlots)
    (assertion "slot location is outside the ciphertext")
  match lanes[patch.location.slot]? with
  | none => .error ⟨.indexError,"list index out of range"⟩
  | some lane => do
    Checked.require (lane.kind = patch.originalKind ∧ lane.coordinate = patch.originalCoordinate ∧
      lane.owner = some patch.ownerRow) (assertion "lane patch does not match the validated base")
    let lanes := lanes.set patch.location.slot
      ⟨patch.value,patch.columnIndex,patch.coordinate,lane.owner,patch.kind⟩
    let increments := if patch.originalKind = .naturalPadding ∧ patch.kind = .actual then
      increments ++ [patch.ownerRow] else increments
    let coordinateSlots ← patchCoordinates patch indexes.coordinateSlots
    let availableSlots ← patchAvailable patch indexes.availableSlots
    return (lanes,increments,{ indexes with
      coordinateSlots := coordinateSlots
      availableSlots := availableSlots })

/-- The patches of a chunk, by slot. -/
def chunkPatches (patches : List LanePatch) (chunkId : String) : List LanePatch :=
  Sorting.sortedBy (fun patch : LanePatch => patch.location.slot)
    (patches.filter fun patch => patch.location.chunkId = chunkId)

def patchChunk (effectiveSlots : ℕ) (patches : List LanePatch)
    (state : List ValueChunk × List ℤ × PatchState) (chunk : ValueChunk) :
    Checked (List ValueChunk × List ℤ × PatchState) := do
  let (chunks,increments,indexes) := state
  if chunkPatches patches chunk.chunkId = [] then return (chunks ++ [chunk],increments,indexes)
  let (lanes,increments,indexes) ← (chunkPatches patches chunk.chunkId).foldlM
    (patchLane effectiveSlots) (chunk.lanes,increments,indexes)
  return (chunks ++ [{ chunk with
    lanes := lanes
    usedSlots := lanes.countP fun lane => lane.kind = .actual
    reservedSlots := lanes.countP fun lane => lane.kind = .reserved }],increments,
    { indexes with foundChunks := indexes.foundChunks ++ [chunk.chunkId] })

/-- `capacities[physical_rows[row]] += 1`, where a later place of a row hides an earlier one. -/
def growCapacity (rowMap : List ℤ) (capacities : List ℕ) (row : ℤ) : Checked (List ℕ) :=
  match (rowMap.zipIdx.filter fun entry => entry.1 = row).getLast? with
  | none => .error ⟨.keyError,toString row⟩
  | some (_,place) =>
    match capacities[place]? with
    | none => .error ⟨.indexError,"list index out of range"⟩
    | some capacity => .ok (capacities.set place (capacity + 1))

def patchBlock (effectiveSlots : ℕ) (patches : List LanePatch)
    (state : List OutputBlockLayout × PatchState) (block : OutputBlockLayout) :
    Checked (List OutputBlockLayout × PatchState) := do
  let (blocks,indexes) := state
  let (chunks,increments,indexes) ← block.chunks.foldlM (patchChunk effectiveSlots patches)
    ([],[],indexes)
  let capacities ← increments.foldlM (growCapacity block.rowMap) block.physicalRowCapacities
  return (blocks ++ [{ block with physicalRowCapacities := capacities, chunks := chunks }],indexes)

def patchLanes (component : PublishedComponent) (patches : List LanePatch) :
    Checked PublishedComponent := do
  if patches = [] then return component
  Checked.eachDistinct (fun patch : LanePatch => (patch.location.chunkId,patch.location.slot))
    (fun patch => Checked.require (patch.location.componentId = component.componentId)
      (assertion "slot location belongs to another component"))
    (assertion "one lane may have only one final patch per window") (fun _ => .ok ()) [] patches
  let (blocks,indexes) ← component.blocks.foldlM
    (patchBlock component.layoutSpec.effectiveSlots patches)
    ([],⟨component.coordinateSlots,component.availableSlots,[]⟩)
  Checked.require (∀ patch ∈ patches, patch.location.chunkId ∈ indexes.foundChunks)
    (assertion "lane patch does not name an active chunk")
  return { component with
    blocks := blocks
    coordinateSlots := indexes.coordinateSlots
    availableSlots := indexes.availableSlots }

end LanePatches

end DynamicCssc
