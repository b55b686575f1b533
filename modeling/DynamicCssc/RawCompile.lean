import DynamicCssc.RawSources

/-! `compile_query` up to the first test of the mapped rows and lanes: the output plan takes the numbers of
the sources over, and its validation asks them to be of the class `int`. -/
namespace DynamicCssc.Raw
open Foundation

structure OutputShare where
  componentId : String
  outputBlockId : String
  slotToLogical : List (PyNumber × PyNumber)
deriving DecidableEq, Repr

structure OutputPlan where
  logicalOutputSize : ℕ
  slotCount : ℕ
  shares : List OutputShare
deriving DecidableEq, Repr

/-- `active_row_map` of `output_plan_for`. -/
def OutputBlockLayout.activeRowMap (block : OutputBlockLayout) : Checked (List PyNumber) := do
  let rows ← zipStrict block.rowMap block.physicalRowCapacities
  return (rows.filter fun entry => 0 < entry.2).map Prod.fst

/-- The body of the loop over the blocks in `output_plan_for`. -/
def outputShares (component : PublishedComponent) (shares : List OutputShare)
    (block : OutputBlockLayout) : Checked (List OutputShare) := do
  if block.chunks = [] then return shares
  let activeRowMap ← block.activeRowMap
  if activeRowMap = [] then return shares
  return shares ++ [{
    componentId := component.componentId
    outputBlockId := block.outputBlockId
    slotToLogical := activeRowMap.zipIdx.map fun entry => (.int entry.2,entry.1) }]

def outputPlanFor : List PublishedComponent → Checked OutputPlan
  | [] => .error ⟨.valueError,"components must not be empty"⟩
  | reference :: others => do
    Checked.eachDistinct PublishedComponent.componentId (fun _ => .ok ())
      ⟨.valueError,"component IDs must be unique within an OutputPlan"⟩
      (fun component => do
        Checked.require (component.versionId = reference.versionId)
          ⟨.valueError,"all components must have the same version_id"⟩
        Checked.require (component.layoutSpec.dimensions = reference.layoutSpec.dimensions)
          ⟨.valueError,"all components must have the same matrix and slot dimensions"⟩)
      [] (reference :: others)
    let shares ← (reference :: others).foldlM (fun shares component =>
      component.blocks.foldlM (outputShares component) shares) []
    return { logicalOutputSize := reference.layoutSpec.rows
             slotCount := reference.layoutSpec.effectiveSlots
             shares := shares }

/-! The shares of the delta. -/
namespace SegmentedDeltaState

/-- `_page_id`: a float has no format of an integer. -/
def pageId : PyNumber → Checked String
  | .float _ => .error ⟨.valueError,"Unknown format code 'd' for object of type 'float'"⟩
  | pageOrdinal => .ok (strongPageId pageOrdinal.whole.toNat)

/-- One item of `allocated_by_page`. Equal numbers are one key, which stays as it was entered first. -/
def pageShare (state : SegmentedDeltaState) (page : ℕ) : Checked OutputShare := do
  let allocated := state.segments.filter fun segment => segment.pageOrdinal.whole.toNat = page
  let id ← pageId ((allocated.head?.map StrongSegment.pageOrdinal).getD (.int page))
  return ⟨strongComponentId,id,allocated.map fun segment => (segment.slotStart,segment.ownerRow)⟩

def postAggregationOutputShares (state : SegmentedDeltaState) : Checked (List OutputShare) := do
  assertStateInvariants state
  (Sorting.sortedSet id (state.segments.map fun segment => segment.pageOrdinal.whole.toNat)).mapM
    state.pageShare

/-- `columns_by_page[segment.page_ordinal]`: a float is no index. -/
def pageIndex (segment : StrongSegment) : Checked Unit :=
  match segment.pageOrdinal with
  | .float _ => .error ⟨.typeError,"list indices must be integers or slices, not float"⟩
  | _ => .ok ()

end SegmentedDeltaState

/-- The share of a client segment, whose numbers are of the class `int`. -/
def laneShare (segment : PackedCOOSegment) : OutputShare :=
  { componentId := clientLaneComponentId
    outputBlockId := segment.segmentId
    slotToLogical := segment.active.map fun entry => (.int entry.1,.int entry.2.coordinate.row) }

/-- `extra_shares` of `compile_query`. -/
def extraShares (sources : QuerySources) : Checked (List OutputShare) :=
  match sources.segmentedDelta with
  | some delta => delta.postAggregationOutputShares
  | none => .ok ((sources.clientLaneSegments.filter fun segment => segment.active ≠ []).map laneShare)

namespace OutputPlan

/-- The body of the loop over `slot_to_logical`. -/
def validateMapping (plan : OutputPlan) (share : OutputShare) : Checked Unit :=
  Checked.eachDistinct (fun entry : PyNumber × PyNumber => entry.1.value)
    (fun entry => Checked.require (entry.1.isStrictInt = true ∧
        0 ≤ entry.1.value ∧ entry.1.value < (plan.slotCount : ℚ))
      (DynamicCssc.OutputPlan.planError "physical slot is outside the output share"))
    (DynamicCssc.OutputPlan.planError "physical slots must be unique within an output share")
    (fun entry => Checked.require (entry.2.isStrictInt = true ∧
        0 ≤ entry.2.value ∧ entry.2.value < (plan.logicalOutputSize : ℚ))
      (DynamicCssc.OutputPlan.planError "logical coordinate is outside the output vector"))
    [] share.slotToLogical

/-- `_validate` of the output plan. -/
def validate (plan : OutputPlan) : Checked Unit := do
  Checked.require (0 < plan.logicalOutputSize)
    (DynamicCssc.OutputPlan.planError "logical_output_size must be a positive integer")
  Checked.require (0 < plan.slotCount)
    (DynamicCssc.OutputPlan.planError "slot_count must be a positive integer")
  Checked.eachDistinct (fun share : OutputShare => (share.componentId,share.outputBlockId))
    (fun share => do
      requireId .outputPlanError share.componentId "component_id"
      requireId .outputPlanError share.outputBlockId "output_block_id")
    (DynamicCssc.OutputPlan.planError "component_id/output_block_id pairs must be unique")
    (fun share => do
      Checked.require (share.slotToLogical ≠ [])
        (DynamicCssc.OutputPlan.planError "each output share must map at least one physical slot")
      validateMapping plan share)
    [] plan.shares

end OutputPlan

/-- `compile_query`. Once the plan has passed and the pages have been indexed, the rest of the compiler
reads no number of the sources but through its value. -/
def compileQuery (sha : Sha256) (arguments : QuerySources) : Checked CompiledQuery := do
  let sources ← validatedSources arguments
  let basePlan ← outputPlanFor sources.components
  let extra ← extraShares sources
  OutputPlan.validate { basePlan with shares := basePlan.shares ++ extra }
  Checked.each SegmentedDeltaState.pageIndex
    (sources.segmentedDelta.toList.flatMap SegmentedDeltaState.segments)
  DynamicCssc.compileQuery sha arguments.read

def OutputBlockLayout.activeRows (block : OutputBlockLayout) : List PyNumber :=
  ((block.rowMap.zip block.physicalRowCapacities).filter fun entry => 0 < entry.2).map Prod.fst

/-- What the compiler asks of the numbers that it does not test with the sources: the mapped rows, the lanes
of the delta's segments and their owners are of the class `int`, and the pages are no floats. -/
structure QuerySources.Strict (sources : QuerySources) : Prop where
  rows : ∀ component ∈ sources.components, ∀ block ∈ component.blocks, block.chunks ≠ [] →
    ∀ row ∈ block.activeRows, row.isStrictInt = true
  starts : ∀ delta ∈ sources.segmentedDelta, ∀ segment ∈ delta.segments, segment.slotStart.isStrictInt = true
  owners : ∀ delta ∈ sources.segmentedDelta, ∀ segment ∈ delta.segments, segment.ownerRow.isStrictInt = true
  pages : ∀ delta ∈ sources.segmentedDelta, ∀ segment ∈ delta.segments, segment.pageOrdinal.isFloat = false

end DynamicCssc.Raw
