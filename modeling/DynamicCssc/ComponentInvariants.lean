import DynamicCssc.PublishLayout

/-! `_assert_component_invariants`, the strategies' own check of a published component. It returns
what the component decodes to and the lanes that are free for reuse. -/
namespace DynamicCssc
open Foundation

structure FreeLane where
  row : ℤ
  kind : LaneKind
  location : SlotLocation
  retainedColumn : Option ℤ
deriving DecidableEq, Repr

/-- `_FREE_LANE_KIND_ORDER`; the other kinds are never free. -/
def LaneKind.freeOrder : LaneKind → ℕ
  | .tombstone => 0
  | .naturalPadding => 1
  | .reserved => 2
  | .actual | .tail => 3

/-- The tuple `(component_id, chunk_id, slot)`. -/
def SlotLocation.key (location : SlotLocation) : String ×ₗ String ×ₗ ℕ :=
  toLex (location.componentId,toLex (location.chunkId,location.slot))

/-- `_free_lane_key`. -/
def FreeLane.key (lane : FreeLane) : ℤ ×ₗ ℕ ×ₗ String ×ₗ String ×ₗ ℕ :=
  toLex (lane.row,toLex (lane.kind.freeOrder,lane.location.key))

structure ComponentScan where
  scanned : List (Coordinate × SlotLocation)
  decoded : SparseState
  freeLanes : List FreeLane
  availableSlots : List (ℤ × LaneKind × SlotLocation)

structure ComponentInspection where
  decoded : SparseState
  freeLanes : List FreeLane

def inconsistent (message : String) : Failure := ⟨.assertionError,message⟩

/-- The first test of a lane: a materialized one belongs to a row of its block. -/
def inspectOwner (block : OutputBlockLayout) (chunk : ValueChunk) (lane : Lane) : Checked Unit :=
  if lane.kind.materialized then do
    Checked.require (∃ owner ∈ block.rowMap, lane.owner = some owner)
      (inconsistent "materialized lane owner must belong to its block")
    Checked.require (chunk.height ≠ 0) ⟨.zeroDivisionError,"integer division or modulo by zero"⟩
  else .ok ()

/-- The rest of the loop over the lanes of a chunk, by the kind of the lane. -/
def inspectKind (spec : LayoutSpec) (matrixValueBound : ℕ) (location : SlotLocation) (scan : ComponentScan)
    (lane : Lane) : Checked ComponentScan :=
  match lane.kind, lane.owner with
  | .actual, some owner => do
    Checked.require (lane.coordinate = some ⟨owner,lane.column⟩ ∧ (0 ≤ owner ∧ owner < spec.rows) ∧
        (0 ≤ lane.column ∧ lane.column < spec.cols) ∧ lane.value ≠ 0 ∧
        lane.value.natAbs ≤ matrixValueBound)
      (inconsistent "actual lane metadata is inconsistent")
    Checked.require ((⟨owner,lane.column⟩ : Coordinate) ∉ scan.scanned.map Prod.fst)
      (inconsistent "actual coordinates must have one physical lane")
    return { scan with
      scanned := scan.scanned ++ [(⟨owner,lane.column⟩,location)]
      decoded := scan.decoded ++ [(⟨owner,lane.column⟩,lane.value)] }
  | .actual, none => .error (inconsistent "actual lane metadata is inconsistent")
  | .tombstone, some owner => do
    Checked.require (lane.coordinate = none ∧ lane.value = 0 ∧ 0 ≤ lane.column ∧ lane.column < spec.cols)
      (inconsistent "tombstone must retain only its old ColumnIndex")
    return { scan with
      freeLanes := scan.freeLanes ++ [⟨owner,lane.kind,location,some lane.column⟩]
      availableSlots := scan.availableSlots ++ [(owner,lane.kind,location)] }
  | .tombstone, none => .error (inconsistent "tombstone must retain only its old ColumnIndex")
  | .naturalPadding, some owner | .reserved, some owner => do
    Checked.require (lane.coordinate = none ∧ lane.value = 0 ∧ lane.column = -1)
      (inconsistent "free CSSC lane metadata is inconsistent")
    return { scan with
      freeLanes := scan.freeLanes ++ [⟨owner,lane.kind,location,none⟩]
      availableSlots := scan.availableSlots ++ [(owner,lane.kind,location)] }
  | .naturalPadding, none | .reserved, none =>
    .error (inconsistent "free CSSC lane metadata is inconsistent")
  | .tail, _ => do
    Checked.require (lane.owner = none ∧ lane.coordinate = none ∧ lane.value = 0 ∧ lane.column = -1)
      (inconsistent "tail lanes must be unowned and inert")
    return scan

def inspectLane (spec : LayoutSpec) (matrixValueBound : ℕ) (componentId : String)
    (block : OutputBlockLayout) (chunk : ValueChunk) (scan : ComponentScan) (entry : Lane × ℕ) :
    Checked ComponentScan := do
  inspectOwner block chunk entry.1
  inspectKind spec matrixValueBound ⟨componentId,chunk.chunkId,entry.2⟩ scan entry.1

def inspectChunk (spec : LayoutSpec) (matrixValueBound : ℕ) (componentId : String)
    (block : OutputBlockLayout) (scan : ComponentScan) (chunk : ValueChunk) : Checked ComponentScan := do
  Checked.require (chunk.lanes.length = spec.effectiveSlots)
    (inconsistent "each component chunk must contain full-length lane arrays")
  let seen ← chunk.lanes.zipIdx.foldlM (inspectLane spec matrixValueBound componentId block chunk) scan
  Checked.require ((chunk.usedSlots = chunk.lanes.countP fun lane => lane.kind = .actual) ∧
      chunk.reservedSlots = chunk.lanes.countP fun lane => lane.kind = .reserved)
    (inconsistent "chunk lane counters must match its lane kinds")
  return seen

def inspectBlock (spec : LayoutSpec) (matrixValueBound : ℕ) (componentId : String) (scan : ComponentScan)
    (block : OutputBlockLayout) : Checked ComponentScan := do
  let seen ← block.chunks.foldlM (inspectChunk spec matrixValueBound componentId block) scan
  Checked.require (block.physicalRowCapacities = block.rowMap.map (materializedWidth block))
    (inconsistent "physical row capacities must match materialized lane ranks")
  return seen

/-- `_assert_component_invariants`; of the configuration it reads the layout and the value bound. -/
def assertComponentInvariants (component : PublishedComponent) (spec : LayoutSpec)
    (matrixValueBound : ℕ) : Checked ComponentInspection := do
  Checked.require (component.layoutSpec = spec)
    (inconsistent "component layout specification must match strategy config")
  let seen ← component.blocks.foldlM (inspectBlock spec matrixValueBound component.componentId)
    ⟨[],[],[],[]⟩
  Checked.require (component.coordinateSlots = Sorting.sortedBy Prod.fst seen.scanned)
    (inconsistent "component coordinate index must match its actual lanes")
  Checked.require (component.availableSlots = seen.availableSlots)
    (inconsistent "component available-lane index must match its free lanes")
  return { decoded := seen.decoded
           freeLanes := Sorting.sortedBy FreeLane.key seen.freeLanes }

/-! What the scan finds in a valid component. -/

/-- A lane as the scan lists it for reuse. -/
def Lane.freeLane (location : SlotLocation) (lane : Lane) : Option FreeLane :=
  if lane.kind.available then lane.owner.map fun owner =>
    ⟨owner,lane.kind,location,if lane.kind = .tombstone then some lane.column else none⟩
  else none

def ValueChunk.freeLanes (componentId : String) (chunk : ValueChunk) : List FreeLane :=
  chunk.lanes.zipIdx.filterMap fun entry => entry.1.freeLane ⟨componentId,chunk.chunkId,entry.2⟩

def PublishedComponent.scannedFree (component : PublishedComponent) : List FreeLane :=
  component.chunks.flatMap (ValueChunk.freeLanes component.componentId)

def ComponentScan.append (scan found : ComponentScan) : ComponentScan :=
  { scanned := scan.scanned ++ found.scanned
    decoded := scan.decoded ++ found.decoded
    freeLanes := scan.freeLanes ++ found.freeLanes
    availableSlots := scan.availableSlots ++ found.availableSlots }

def Lane.scan (location : SlotLocation) (lane : Lane) : ComponentScan :=
  { scanned := (lane.placed location).toList
    decoded := lane.entry.toList
    freeLanes := (lane.freeLane location).toList
    availableSlots := (lane.free location).toList }

def scanLanes (componentId chunkId : String) (entries : List (Lane × ℕ)) : ComponentScan :=
  { scanned := entries.filterMap fun entry => entry.1.placed ⟨componentId,chunkId,entry.2⟩
    decoded := entries.filterMap fun entry => entry.1.entry
    freeLanes := entries.filterMap fun entry => entry.1.freeLane ⟨componentId,chunkId,entry.2⟩
    availableSlots := entries.filterMap fun entry => entry.1.free ⟨componentId,chunkId,entry.2⟩ }

def scanChunks (componentId : String) (chunks : List ValueChunk) : ComponentScan :=
  { scanned := chunks.flatMap (ValueChunk.placed componentId)
    decoded := chunks.flatMap ValueChunk.entries
    freeLanes := chunks.flatMap (ValueChunk.freeLanes componentId)
    availableSlots := chunks.flatMap (ValueChunk.free componentId) }

private theorem scanLanes_chunk (componentId : String) (chunk : ValueChunk) :
    scanLanes componentId chunk.chunkId chunk.lanes.zipIdx = scanChunks componentId [chunk] := by
  simp only [scanLanes,scanChunks,entries_zipIdx,List.flatMap_singleton,ValueChunk.placed,ValueChunk.freeLanes,
    ValueChunk.free]

private theorem placed_fst (location : SlotLocation) (lane : Lane) :
    (lane.placed location).map Prod.fst = lane.entry.map Prod.fst := by
  unfold Lane.placed Lane.entry
  split
  · cases lane.coordinate <;> rfl
  · rfl

private theorem chunk_coordinates (componentId : String) (chunk : ValueChunk) :
    (chunk.placed componentId).map Prod.fst = chunk.entries.map Prod.fst := by
  rw [← entries_zipIdx,ValueChunk.placed,List.map_filterMap,List.map_filterMap]
  refine List.filterMap_congr fun entry _ => ?_
  exact placed_fst _ entry.1

theorem scanned_coordinates (component : PublishedComponent) :
    component.scannedCoordinates.map Prod.fst = component.decode.map Prod.fst := by
  rw [scannedCoordinates_eq,List.map_flatMap,
    show component.decode = component.chunks.flatMap ValueChunk.entries from rfl,List.map_flatMap]
  exact List.flatMap_congr fun chunk _ => chunk_coordinates _ chunk

private theorem inspectKind_ok {spec : LayoutSpec} (bound : ℕ) (location : SlotLocation) (scan : ComponentScan)
    {lane : Lane} (content : LaneContent spec lane)
    (bounded : ∀ entry ∈ lane.entry, entry.2.natAbs ≤ bound)
    (fresh : ∀ entry ∈ lane.placed location, entry.1 ∉ scan.scanned.map Prod.fst) :
    inspectKind spec bound location scan lane = .ok (scan.append (lane.scan location)) := by
  obtain ⟨value,column,coordinate,owner,kind⟩ := lane
  unfold LaneContent at content
  dsimp only at content
  split at content
  · obtain ⟨same,nonzero,rows,columns⟩ := content
    subst same
    have small : value.natAbs ≤ bound := by simpa [Lane.entry] using bounded
    have new := fresh _ (by simp [Lane.placed]; rfl)
    refine Checked.pass _ _ _ (Checked.require_true _ _ ⟨rfl,rows,columns,nonzero,small⟩) ?_
    refine Checked.pass _ _ _ (Checked.require_true _ _ new) ?_
    simp [ComponentScan.append,Lane.scan,Lane.placed,Lane.entry,Lane.freeLane,Lane.free,LaneKind.available,
      pure,Except.pure]
  · refine Checked.pass _ _ _ (Checked.require_true _ _ content) ?_
    simp [ComponentScan.append,Lane.scan,Lane.placed,Lane.entry,Lane.freeLane,Lane.free,LaneKind.available,
      pure,Except.pure]
  · refine Checked.pass _ _ _ (Checked.require_true _ _ content) ?_
    simp [ComponentScan.append,Lane.scan,Lane.placed,Lane.entry,Lane.freeLane,Lane.free,LaneKind.available,
      pure,Except.pure]
  · refine Checked.pass _ _ _ (Checked.require_true _ _ content) ?_
    simp [ComponentScan.append,Lane.scan,Lane.placed,Lane.entry,Lane.freeLane,Lane.free,LaneKind.available,
      pure,Except.pure]
  · refine Checked.pass _ _ _ (Checked.require_true _ _ ⟨rfl,content⟩) ?_
    simp [ComponentScan.append,Lane.scan,Lane.placed,Lane.entry,Lane.freeLane,Lane.free,LaneKind.available,
      pure,Except.pure]
  · exact content.elim

section Valid
variable {spec : LayoutSpec} (bound : ℕ) (componentId : String) {block : OutputBlockLayout}
  {chunk : ValueChunk}

private theorem inspectOwner_ok (good : ChunkValid spec block chunk) (slot : ℕ) (lane : Lane)
    (found : chunk.lanes[slot]? = some lane) : inspectOwner block chunk lane = .ok () := by
  unfold inspectOwner
  split
  · rename_i materialized
    have shape := good.shape slot lane found
    have content := good.content slot lane found
    unfold LaneShape at shape
    unfold LaneContent at content
    obtain ⟨owner,owned⟩ : ∃ owner, lane.owner = some owner := by
      split at content
      · exact ⟨_,‹lane.owner = some _›⟩
      · exact ⟨_,‹lane.owner = some _›⟩
      · exact ⟨_,‹lane.owner = some _›⟩
      · exact ⟨_,‹lane.owner = some _›⟩
      · rename_i tail _
        rw [tail] at materialized
        cases materialized
      · exact content.elim
    have inRows : owner ∈ block.rowMap := by
      split at shape
      · exact List.mem_of_getElem? (shape.1.symm.trans owned)
      · rw [shape.2] at owned
        cases owned
    refine Checked.pass _ _ _ (Checked.require_true _ _ ⟨owner,inRows,owned⟩) ?_
    exact Checked.require_true _ _ good.height_pos.ne'
  · rfl

private theorem inspectLanes_ok (good : ChunkValid spec block chunk) (entries : List (Lane × ℕ))
    (subset : entries ⊆ chunk.lanes.zipIdx)
    (bounded : ∀ entry ∈ (scanLanes componentId chunk.chunkId entries).decoded, entry.2.natAbs ≤ bound)
    (scan : ComponentScan)
    (fresh : (scan.scanned.map Prod.fst ++
      (scanLanes componentId chunk.chunkId entries).scanned.map Prod.fst).Nodup) :
    entries.foldlM (inspectLane spec bound componentId block chunk) scan =
      .ok (scan.append (scanLanes componentId chunk.chunkId entries)) := by
  induction entries generalizing scan with
  | nil => simp [scanLanes,ComponentScan.append,pure,Except.pure]
  | cons entry entries ih =>
    obtain ⟨lane,slot⟩ := entry
    have found := List.mk_mem_zipIdx_iff_getElem?.mp (subset List.mem_cons_self)
    have split : scanLanes componentId chunk.chunkId ((lane,slot) :: entries) =
        (lane.scan ⟨componentId,chunk.chunkId,slot⟩).append (scanLanes componentId chunk.chunkId entries) := by
      have cons {β : Type} (f : Lane × ℕ → Option β) : ((lane,slot) :: entries).filterMap f =
          (f (lane,slot)).toList ++ entries.filterMap f := by
        cases held : f (lane,slot) <;> simp [held]
      simp only [scanLanes,cons,ComponentScan.append,Lane.scan]
    rw [split] at bounded fresh ⊢
    simp only [ComponentScan.append,List.map_append,← List.append_assoc] at fresh
    have placed := inspectKind_ok bound ⟨componentId,chunk.chunkId,slot⟩ scan (good.content slot lane found)
      (fun entry member => bounded entry (List.mem_append_left _ (Option.mem_toList.mpr member)))
      (fun entry member again => by
        have apart := (List.nodup_append.mp (List.nodup_append.mp fresh).1).2.2
        exact apart _ again _ (List.mem_map_of_mem (Option.mem_toList.mpr member)) rfl)
    have step : inspectLane spec bound componentId block chunk scan (lane,slot) =
        .ok (scan.append (lane.scan ⟨componentId,chunk.chunkId,slot⟩)) :=
      Checked.pass _ _ _ (inspectOwner_ok good slot lane found) placed
    rw [List.foldlM_cons,step,Checked.ok_bind,
      ih (fun other member => subset (List.mem_cons_of_mem _ member))
        (fun other member => bounded other (List.mem_append_right _ member)) _ (by
          simpa only [ComponentScan.append,List.map_append] using fresh)]
    simp only [ComponentScan.append,List.append_assoc]

private theorem inspectChunks_ok (chunks : List ValueChunk)
    (good : ∀ chunk ∈ chunks, ChunkValid spec block chunk)
    (bounded : ∀ entry ∈ (scanChunks componentId chunks).decoded, entry.2.natAbs ≤ bound)
    (scan : ComponentScan)
    (fresh : (scan.scanned.map Prod.fst ++ (scanChunks componentId chunks).scanned.map Prod.fst).Nodup) :
    chunks.foldlM (inspectChunk spec bound componentId block) scan =
      .ok (scan.append (scanChunks componentId chunks)) := by
  induction chunks generalizing scan with
  | nil => simp [scanChunks,ComponentScan.append,pure,Except.pure]
  | cons chunk chunks ih =>
    have valid := good chunk List.mem_cons_self
    have split : scanChunks componentId (chunk :: chunks) =
        (scanChunks componentId [chunk]).append (scanChunks componentId chunks) := by
      simp only [scanChunks,ComponentScan.append,List.flatMap_cons,List.flatMap_nil,List.append_nil]
    rw [split] at bounded fresh ⊢
    simp only [ComponentScan.append,List.map_append,← List.append_assoc] at fresh
    have lanes := inspectLanes_ok bound componentId valid chunk.lanes.zipIdx
      (List.Subset.refl _) (fun entry member => bounded entry (List.mem_append_left _ (by
        rwa [scanLanes_chunk] at member))) scan (by
        rw [scanLanes_chunk]
        exact (List.nodup_append.mp fresh).1)
    have step : inspectChunk spec bound componentId block scan chunk =
        .ok (scan.append (scanChunks componentId [chunk])) := by
      refine Checked.pass _ _ _ (Checked.require_true _ _ valid.length) ?_
      rw [lanes,scanLanes_chunk,Checked.ok_bind]
      exact Checked.pass _ _ _ (Checked.require_true _ _ ⟨valid.used,valid.reserved⟩) rfl
    rw [List.foldlM_cons,step,Checked.ok_bind,
      ih (fun other member => good other (List.mem_cons_of_mem _ member))
        (fun other member => bounded other (List.mem_append_right _ member)) _ (by
          simpa only [ComponentScan.append,List.map_append] using fresh)]
    simp only [ComponentScan.append,List.append_assoc]

private theorem inspectBlocks_ok (blocks : List OutputBlockLayout)
    (good : ∀ block ∈ blocks, ∃ range, BlockValid spec range block)
    (bounded : ∀ entry ∈ (scanChunks componentId (blocks.flatMap OutputBlockLayout.chunks)).decoded,
      entry.2.natAbs ≤ bound)
    (scan : ComponentScan)
    (fresh : (scan.scanned.map Prod.fst ++
      (scanChunks componentId (blocks.flatMap OutputBlockLayout.chunks)).scanned.map Prod.fst).Nodup) :
    blocks.foldlM (inspectBlock spec bound componentId) scan =
      .ok (scan.append (scanChunks componentId (blocks.flatMap OutputBlockLayout.chunks))) := by
  induction blocks generalizing scan with
  | nil => simp [scanChunks,ComponentScan.append,pure,Except.pure]
  | cons block blocks ih =>
    obtain ⟨range,valid⟩ := good block List.mem_cons_self
    have split : scanChunks componentId ((block :: blocks).flatMap OutputBlockLayout.chunks) =
        (scanChunks componentId block.chunks).append
          (scanChunks componentId (blocks.flatMap OutputBlockLayout.chunks)) := by
      simp only [scanChunks,ComponentScan.append,List.flatMap_cons,List.flatMap_append]
    rw [split] at bounded fresh ⊢
    simp only [ComponentScan.append,List.map_append,← List.append_assoc] at fresh
    have step : inspectBlock spec bound componentId scan block =
        .ok (scan.append (scanChunks componentId block.chunks)) := by
      unfold inspectBlock
      rw [inspectChunks_ok bound componentId block.chunks valid.chunks
        (fun entry member => bounded entry (List.mem_append_left _ member)) scan
        (List.nodup_append.mp fresh).1,Checked.ok_bind]
      exact Checked.pass _ _ _ (Checked.require_true _ _ valid.widths) rfl
    rw [List.foldlM_cons,step,Checked.ok_bind,
      ih (fun other member => good other (List.mem_cons_of_mem _ member))
        (fun other member => bounded other (List.mem_append_right _ member)) _ (by
          simpa only [ComponentScan.append,List.map_append] using fresh)]
    simp only [ComponentScan.append,List.append_assoc]

end Valid

/-- What the query compiler takes for valid passes the strategies' check too, when the values lie
within the bound. -/
theorem assertComponentInvariants_ok (component : PublishedComponent) (valid : ComponentValid component)
    (bound : ℕ) (bounded : ∀ entry ∈ component.decode, entry.2.natAbs ≤ bound) :
    assertComponentInvariants component component.layoutSpec bound =
      .ok { decoded := component.decode
            freeLanes := Sorting.sortedBy FreeLane.key component.scannedFree } := by
  have scanned := inspectBlocks_ok bound component.componentId component.blocks
    (fun block member => (valid.block block member).imp fun range both => both.2) bounded ⟨[],[],[],[]⟩ (by
      rw [List.map_nil,List.nil_append]
      exact valid.coordinates)
  refine Checked.pass _ _ _ (Checked.require_true _ _ rfl) ?_
  rw [scanned,Checked.ok_bind]
  refine Checked.pass _ _ _ (Checked.require_true _ _ valid.placed) ?_
  exact Checked.pass _ _ _ (Checked.require_true _ _ valid.available) rfl

end DynamicCssc
