import DynamicCssc.PublishComponent
import DynamicCssc.QueryPieces

/-! The chunks of a published block in closed form: lane `slot` of a chunk is what row
`slot % height` stores at rank `column + slot / height`. -/
namespace DynamicCssc
open Foundation

def laneAt (table : RowTable) (row rank : ℕ) : Lane :=
  if table.capacity row ≤ rank then ⟨0,-1,none,some row,.naturalPadding⟩
  else match (table.entries row)[rank]? with
  | none => ⟨0,-1,none,some row,.reserved⟩
  | some entry => ⟨entry.2,entry.1,some ⟨row,entry.1⟩,some row,.actual⟩

/-- What `_coordinate_slots` lists of a lane. -/
def Lane.placed (location : SlotLocation) (lane : Lane) : Option (Coordinate × SlotLocation) :=
  if lane.kind = .actual then lane.coordinate.map fun coordinate => (coordinate,location) else none

/-- What `_available_slots` lists of a lane. -/
def Lane.free (location : SlotLocation) (lane : Lane) : Option (ℤ × LaneKind × SlotLocation) :=
  if lane.kind.available then lane.owner.map fun owner => (owner,lane.kind,location) else none

def ValueChunk.placed (componentId : String) (chunk : ValueChunk) : List (Coordinate × SlotLocation) :=
  chunk.lanes.zipIdx.filterMap fun entry => entry.1.placed ⟨componentId,chunk.chunkId,entry.2⟩

def ValueChunk.free (componentId : String) (chunk : ValueChunk) : List (ℤ × LaneKind × SlotLocation) :=
  chunk.lanes.zipIdx.filterMap fun entry => entry.1.free ⟨componentId,chunk.chunkId,entry.2⟩

theorem scannedCoordinates_eq (component : PublishedComponent) : component.scannedCoordinates =
    component.chunks.flatMap (ValueChunk.placed component.componentId) := rfl

theorem scannedAvailable_eq (component : PublishedComponent) : component.scannedAvailable =
    component.chunks.flatMap (ValueChunk.free component.componentId) := rfl

theorem entries_zipIdx (chunk : ValueChunk) :
    chunk.lanes.zipIdx.filterMap (fun entry => entry.1.entry) = chunk.entries := by
  conv_rhs => rw [ValueChunk.entries,← List.zipIdx_map_fst 0 chunk.lanes,List.filterMap_map]
  rfl

/-! One lane. -/

section Lane
variable (table : RowTable) (row rank : ℕ)

theorem laneAt_owner : (laneAt table row rank).owner = some (row : ℤ) := by
  unfold laneAt
  split
  · rfl
  · split <;> rfl

theorem laneAt_padding (beyond : table.capacity row ≤ rank) :
    (laneAt table row rank).kind = .naturalPadding := by
  rw [laneAt,if_pos beyond]

theorem laneAt_materialized (below : rank < table.capacity row) :
    (laneAt table row rank).kind.materialized = true := by
  rw [laneAt,if_neg (by omega)]
  split <;> rfl

theorem laneAt_value : (laneAt table row rank).entry =
    if table.capacity row ≤ rank then none
    else ((table.entries row)[rank]?).map fun entry => ((⟨row,entry.1⟩ : Coordinate),entry.2) := by
  unfold laneAt
  split
  · rfl
  · cases (table.entries row)[rank]? <;> rfl

end Lane

private theorem placeLane_eq (table : RowTable) (rowMap : List ℕ) (componentId chunkId : String)
    (column height : ℕ) (draft : ChunkDraft) (place : ℕ × ℕ) (lane : Lane) (location : SlotLocation)
    (stored : lane = laneAt table ((rowMap[place.2]?).getD 0) (column + place.1))
    (here : location = ⟨componentId,chunkId,place.1 * height + place.2⟩) :
    placeLane table rowMap componentId chunkId column height draft place =
      { lanes := draft.lanes.set location.slot lane
        placements := draft.placements ++ (lane.placed location).toList
        availableSlots := draft.availableSlots ++ (lane.free location).toList
        usedSlots := draft.usedSlots + if lane.kind = .actual then 1 else 0
        reservedSlots := draft.reservedSlots + if lane.kind = .reserved then 1 else 0 } := by
  subst stored here
  unfold placeLane laneAt
  dsimp only
  split
  · simp [Lane.placed,Lane.free,LaneKind.available]
  · cases held : (table.entries ((rowMap[place.2]?).getD 0))[column + place.1]? with
    | none => simp [Lane.placed,Lane.free,LaneKind.available]
    | some entry => simp [Lane.placed,Lane.free,LaneKind.available]

def rectangleLane (table : RowTable) (rowMap : List ℕ) (column height slot : ℕ) : Lane :=
  laneAt table ((rowMap[slot % height]?).getD 0) (column + slot / height)

theorem rectanglePlaces_eq (width height : ℕ) : rectanglePlaces width height =
    (List.range (width * height)).map fun slot => (slot / height,slot % height) := by
  rcases Nat.eq_zero_or_pos height with rfl | tall
  · simp [rectanglePlaces]
  · induction width with
    | zero => simp [rectanglePlaces]
    | succ width ih =>
      have last : (List.range height).map (fun row => (width,row)) =
          ((List.range height).map fun row => width * height + row).map
            fun slot => (slot / height,slot % height) := by
        rw [List.map_map]
        refine List.map_congr_left fun row member => ?_
        have below := List.mem_range.mp member
        simp only [Function.comp_apply,Prod.mk.injEq]
        rw [Nat.mul_comm width,Nat.mul_add_div tall,Nat.div_eq_of_lt below,Nat.mul_add_mod,
          Nat.mod_eq_of_lt below]
        exact ⟨rfl,rfl⟩
      rw [Nat.succ_mul,List.range_add,List.map_append,← ih,← last,rectanglePlaces,List.range_succ,
        List.flatMap_append]
      simp [rectanglePlaces]

private theorem filled_eq (table : RowTable) (rowMap : List ℕ) (componentId chunkId : String)
    (column height slots : ℕ) (placements : List (Coordinate × SlotLocation))
    (availableSlots : List (ℤ × LaneKind × SlotLocation)) (count : ℕ) (fits : count ≤ slots) :
    ((List.range count).map fun slot => (slot / height,slot % height)).foldl
      (placeLane table rowMap componentId chunkId column height)
      ⟨List.replicate slots tailLane,placements,availableSlots,0,0⟩ =
    { lanes := (List.range count).map (rectangleLane table rowMap column height) ++
        List.replicate (slots - count) tailLane
      placements := placements ++ (List.range count).filterMap fun slot =>
        (rectangleLane table rowMap column height slot).placed ⟨componentId,chunkId,slot⟩
      availableSlots := availableSlots ++ (List.range count).filterMap fun slot =>
        (rectangleLane table rowMap column height slot).free ⟨componentId,chunkId,slot⟩
      usedSlots := (List.range count).countP fun slot =>
        (rectangleLane table rowMap column height slot).kind = .actual
      reservedSlots := (List.range count).countP fun slot =>
        (rectangleLane table rowMap column height slot).kind = .reserved } := by
  induction count with
  | zero => simp
  | succ count ih =>
    have slot : count / height * height + count % height = count := by
      rw [Nat.mul_comm]
      exact Nat.div_add_mod count height
    rw [List.range_succ,List.map_append,List.foldl_append,ih (by omega),List.map_singleton,
      List.foldl_cons,List.foldl_nil,placeLane_eq table rowMap componentId chunkId column height _ _
        (rectangleLane table rowMap column height count) ⟨componentId,chunkId,count⟩ rfl (by rw [slot])]
    have next : slots - count = (slots - (count + 1)) + 1 := by omega
    have written : ((List.range count).map (rectangleLane table rowMap column height) ++
        List.replicate (slots - count) tailLane).set count (rectangleLane table rowMap column height count) =
        (List.range count).map (rectangleLane table rowMap column height) ++
          [rectangleLane table rowMap column height count] ++
          List.replicate (slots - (count + 1)) tailLane := by
      rw [next,List.replicate_succ,List.set_append_right _ _ (by simp)]
      simp
    have single {β : Type} (f : ℕ → Option β) : [count].filterMap f = (f count).toList := by
      cases held : f count <;> simp [held]
    simp only [ChunkDraft.mk.injEq]
    refine ⟨?_,?_,?_,?_,?_⟩
    · rw [written]
      simp
    · rw [List.filterMap_append,single,List.append_assoc]
    · rw [List.filterMap_append,single,List.append_assoc]
    · simp [List.countP_cons]
    · simp [List.countP_cons]

/-! A block. -/

section Block
variable (table : RowTable) (slots : ℕ) (blockId : String) (rowMap : List ℕ)

def RowTable.widest : ℕ := (rowMap.map table.capacity).foldr max 0

def RowTable.reaching (column : ℕ) : ℕ :=
  (rowMap.map table.capacity).countP fun capacity => column < capacity

def RowTable.chunkWidth (column : ℕ) : ℕ :=
  min (table.widest rowMap - column) (slots / table.reaching rowMap column)

def laidChunk (column index : ℕ) : ValueChunk :=
  let height := table.reaching rowMap column
  let width := table.chunkWidth slots rowMap column
  let lanes := (List.range (width * height)).map (rectangleLane table rowMap column height)
  { chunkId := blockId ++ "-c" ++ sixDigits index
    startColumn := column
    width := width
    height := height
    usedSlots := lanes.countP fun lane => lane.kind = .actual
    reservedSlots := lanes.countP fun lane => lane.kind = .reserved
    rectangularSlots := height * width
    lanes := lanes ++ List.replicate (slots - width * height) tailLane }

theorem laidChunk_area (column : ℕ) : table.chunkWidth slots rowMap column * table.reaching rowMap column ≤ slots :=
  (Nat.mul_le_mul_right _ (Nat.min_le_right _ _)).trans (Nat.div_mul_le_self _ _)

theorem laidChunk_scan {β : Type} (column index : ℕ) (scan : Lane → ℕ → Option β)
    (tail : ∀ slot, scan tailLane slot = none) :
    ((laidChunk table slots blockId rowMap column index).lanes.zipIdx.filterMap fun entry =>
      scan entry.1 entry.2) =
    (List.range (table.chunkWidth slots rowMap column * table.reaching rowMap column)).filterMap fun slot =>
      scan (rectangleLane table rowMap column (table.reaching rowMap column) slot) slot := by
  have outside (start count : ℕ) : ((List.replicate count tailLane).zipIdx start).filterMap
      (fun entry => scan entry.1 entry.2) = [] := by
    rw [List.filterMap_eq_nil_iff]
    intro entry member
    rw [List.eq_of_mem_replicate (List.fst_mem_of_mem_zipIdx member),tail]
  have inside (count : ℕ) (f : ℕ → Lane) : ((List.range count).map f).zipIdx =
      (List.range count).map fun slot => (f slot,slot) := by
    refine List.ext_getElem? fun place => ?_
    by_cases below : place < count <;> simp [below]
  rw [laidChunk]
  dsimp only
  rw [List.zipIdx_append,List.filterMap_append,outside,List.append_nil,inside,List.filterMap_map]
  rfl

theorem publishChunk_eq (componentId : String) (draft : BlockDraft)
    (reached : 0 < table.reaching rowMap draft.column) :
    publishChunk table slots componentId blockId rowMap (rowMap.map table.capacity) draft =
      .ok { column := draft.column + table.chunkWidth slots rowMap draft.column
            chunkIndex := draft.chunkIndex + 1
            chunks := draft.chunks ++ [laidChunk table slots blockId rowMap draft.column draft.chunkIndex]
            placements := draft.placements ++
              (laidChunk table slots blockId rowMap draft.column draft.chunkIndex).placed componentId
            availableSlots := draft.availableSlots ++
              (laidChunk table slots blockId rowMap draft.column draft.chunkIndex).free componentId } := by
  have nonzero : (rowMap.map table.capacity).countP (fun capacity => draft.column < capacity) ≠ 0 :=
    Nat.ne_of_gt reached
  refine Checked.pass _ _ _ (Checked.require_true _ _ nonzero) ?_
  have tall : (rowMap.map table.capacity).countP (fun capacity => draft.column < capacity) =
      table.reaching rowMap draft.column := rfl
  have wide : min ((rowMap.map table.capacity).foldr max 0 - draft.column)
      (slots / table.reaching rowMap draft.column) = table.chunkWidth slots rowMap draft.column := rfl
  dsimp only
  rw [tall,wide,rectanglePlaces_eq,filled_eq table rowMap componentId _ draft.column _ slots _ _ _
    (laidChunk_area table slots rowMap draft.column),ValueChunk.placed,ValueChunk.free,
    laidChunk_scan table slots blockId rowMap draft.column draft.chunkIndex
      (fun lane slot => lane.placed ⟨componentId,_,slot⟩) (fun slot => rfl),
    laidChunk_scan table slots blockId rowMap draft.column draft.chunkIndex
      (fun lane slot => lane.free ⟨componentId,_,slot⟩) (fun slot => rfl)]
  simp only [laidChunk,List.countP_map]
  rfl

end Block

end DynamicCssc
