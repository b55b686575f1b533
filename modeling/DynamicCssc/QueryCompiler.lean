import DynamicCssc.CloudProgram
import DynamicCssc.MaskedShares
import DynamicCssc.StrongPackedCoo

/-! The query compiler: every chunk, delta page and client segment becomes one product of a
value and a query ciphertext, reduced by rotations to row sums, and every output block one
returned ciphertext. -/
namespace DynamicCssc
open Foundation

structure PackedCOOEntry where
  coordinate : Coordinate
  value : ℤ
deriving DecidableEq, Repr

structure PackedCOOSegment where
  segmentId : String
  versionId : String
  capacity : ℕ
  entries : List (Option PackedCOOEntry)
deriving DecidableEq, Repr

inductive F1MPolicy
  | overlapOnly
  | uniformRandomOrZero
deriving DecidableEq, Repr

inductive OperandSourceKind
  | publishedChunk
  | segmentedDeltaPage
  | clientLaneSegment
deriving DecidableEq, Repr

structure OperandSpec where
  valueCiphertextId : String
  queryCiphertextId : String
  sourceKind : OperandSourceKind
  sourceOrdinal : ℕ
  resultId : String
  values : List ℤ
  globalColumnIndices : List ℤ
deriving DecidableEq, Repr

/-- The arguments of `compile_query`. -/
structure QuerySources where
  components : List PublishedComponent
  segmentedDelta : Option SegmentedDeltaState
  clientLaneSegments : List PackedCOOSegment
  f1mPolicy : F1MPolicy
deriving DecidableEq, Repr

structure CompiledQuery where
  sources : QuerySources
  cloudPlan : CloudExecutionPlan
  outputPlan : OutputPlan
  operandSpecs : List OperandSpec
  resultRoutes : List ResultRoute
  cloudProgramDigest : String
  outputPlanDigest : String
  executionBindingDigest : String
  cloudCounts : CloudPlanCounts
  outputAnalysis : OutputPlanAnalysis
deriving DecidableEq, Repr

def clientLaneComponentId : String := "packed-coo-delta"

def compilerError (message : String) : Failure := ⟨.queryCompilerError,message⟩

/-! `_validated_sources`. -/

def validateComponent (component : PublishedComponent) : Checked Unit :=
  Checked.require (ComponentValid component) (compilerError "PublishedComponent is invalid")

def overlapError : Failure := compilerError "active source coordinates must not overlap"

/-- `coordinates.update(new)`, behind the test that nothing new is in there. -/
def addCoordinates (coordinates new : List Coordinate) : Checked (List Coordinate) := do
  Checked.require (∀ coordinate ∈ new, coordinate ∉ coordinates) overlapError
  return coordinates ++ new

/-- The keys of `coord_to_slot`. -/
def PublishedComponent.coordinates (component : PublishedComponent) : List Coordinate :=
  component.coordinateSlots.map Prod.fst

def validateDelta (reference : PublishedComponent) (components : List PublishedComponent)
    (coordinates : List Coordinate) (delta : SegmentedDeltaState) : Checked Unit :=
  match delta.decode with
  | .error _ => .error (compilerError "segmented_delta is invalid")
  | .ok decoded => do
    Checked.require (delta.versionId = reference.versionId)
      (compilerError "all sources must have the same version_id")
    Checked.require ((delta.rows,delta.cols,delta.effectiveSlots) = reference.layoutSpec.dimensions)
      (compilerError "all sources must have the same matrix and slot dimensions")
    Checked.require (∀ component ∈ components, component.componentId ≠ strongComponentId)
      (compilerError "component ID collides with segmented delta")
    Checked.require (∀ entry ∈ decoded, entry.1 ∉ coordinates) overlapError

/-- `validateDelta` where there is a delta. -/
def validateDeltaSource (reference : PublishedComponent) (components : List PublishedComponent)
    (coordinates : List Coordinate) : Option SegmentedDeltaState → Checked Unit
  | none => .ok ()
  | some delta => validateDelta reference components coordinates delta

def segmentError : Failure := compilerError "client-lane segment is invalid"

/-- The body of the loop over a segment's entries. -/
def validateLaneEntry (spec : LayoutSpec) (coordinates : List Coordinate) :
    Option PackedCOOEntry → Checked (List Coordinate)
  | none => .ok coordinates
  | some entry => do
    Checked.require ((0 ≤ entry.coordinate.row ∧ entry.coordinate.row < spec.rows) ∧
      0 ≤ entry.coordinate.col ∧ entry.coordinate.col < spec.cols) segmentError
    if entry.value = 0 then return coordinates
    Checked.require (entry.coordinate ∉ coordinates) overlapError
    return coordinates ++ [entry.coordinate]

def validateLaneSegment (reference : PublishedComponent) (coordinates : List Coordinate)
    (segment : PackedCOOSegment) : Checked (List Coordinate) := do
  Checked.require (validId segment.segmentId = true ∧ segment.versionId = reference.versionId ∧
    (0 < segment.capacity ∧ segment.capacity ≤ reference.layoutSpec.effectiveSlots) ∧
    segment.entries.length = segment.capacity) segmentError
  segment.entries.foldlM (validateLaneEntry reference.layoutSpec) coordinates

def validatedSources (sources : QuerySources) : Checked QuerySources := do
  Checked.require (sources.components ≠ []) (compilerError "components must be a non-empty tuple")
  Checked.require (sources.segmentedDelta = none ∨ sources.clientLaneSegments = [])
    (compilerError "segmented_delta and client_lane_segments are mutually exclusive")
  let components := Sorting.sortedBy PublishedComponent.componentId sources.components
  Checked.require (components.map PublishedComponent.componentId).Nodup
    (compilerError "component IDs must be unique")
  Checked.each validateComponent components
  match components with
  | [] => .error (compilerError "components must be a non-empty tuple")
  | reference :: _ => do
    Checked.require (∀ component ∈ components, component.versionId = reference.versionId)
      (compilerError "all sources must have the same version_id")
    Checked.require (∀ component ∈ components,
        component.layoutSpec.dimensions = reference.layoutSpec.dimensions)
      (compilerError "all sources must have the same matrix and slot dimensions")
    let coordinates ← components.foldlM (fun coordinates component =>
      addCoordinates coordinates component.coordinates) []
    validateDeltaSource reference components coordinates sources.segmentedDelta
    let segments := Sorting.sortedBy PackedCOOSegment.segmentId sources.clientLaneSegments
    Checked.require (segments.map PackedCOOSegment.segmentId).Nodup
      (compilerError "client-lane segment IDs must be unique")
    Checked.require (segments ≠ [] →
        ∀ component ∈ components, component.componentId ≠ clientLaneComponentId)
      (compilerError "component ID collides with client-lane source")
    let _ ← segments.foldlM (validateLaneSegment reference) coordinates
    return { sources with components := components, clientLaneSegments := segments }

/-! The lists and counters that the compilation appends to. -/

structure Emission where
  ciphertextInputs : List CiphertextInput
  plaintextMasks : List PlaintextMask
  nodes : List CloudNode
  resultIds : List String
  operandSpecs : List OperandSpec
  routes : List ResultRoute
  rotationShifts : List ℕ
  operandOrdinal : ℕ
  resultOrdinal : ℕ

/-- What `append_operand` returns. -/
structure Operand where
  ordinal : ℕ
  valueId : String
  queryId : String
  relinearizedId : String

namespace Emission

def empty : Emission := ⟨[],[],[],[],[],[],[],0,0⟩

def appendOperand (slotCount : ℕ) (emission : Emission) : Emission × Operand :=
  let ordinal := emission.operandOrdinal
  let valueId := (Name.mk .ctValue ordinal none).text
  let queryId := (Name.mk .ctQuery ordinal none).text
  let productId := (Name.mk .ssaProduct ordinal none).text
  let relinearizedId := (Name.mk .ssaRelinearized ordinal none).text
  ({ emission with
      ciphertextInputs := emission.ciphertextInputs ++
        [⟨valueId,.value,slotCount⟩,⟨queryId,.query,slotCount⟩]
      nodes := emission.nodes ++
        [.multiplyCiphertexts productId valueId queryId,.relinearize relinearizedId productId]
      operandOrdinal := ordinal + 1 },
    ⟨ordinal,valueId,queryId,relinearizedId⟩)

def rotateAdd (rotated sum : Name) (source accumulated : String) (shift : ℕ)
    (emission : Emission) : Emission :=
  { emission with
    nodes := emission.nodes ++ [.rotate rotated.text source shift shift,
      .addCiphertexts sum.text accumulated rotated.text]
    rotationShifts := emission.rotationShifts ++ [shift] }

/-- The first loop of `_append_cssc_reduction`: `powers[2 * span]` from `powers[span]`. The
fuel bounds the number of doublings. -/
def doubleLoop (ordinal width height : ℕ) :
    ℕ → ℕ → List (ℕ × String) → Emission → Emission × ℕ × List (ℕ × String)
  | 0, span, powers, emission => (emission,span,powers)
  | fuel + 1, span, powers, emission =>
    if 2 * span ≤ width then
      let shift := span * height
      let rotatedId : Name := ⟨.ssaRotate,ordinal,some span⟩
      let sumId : Name := ⟨.ssaColumnSum,ordinal,some span⟩
      let source := (powers.lookup span).getD ""
      doubleLoop ordinal width height fuel (2 * span) ((2 * span,sumId.text) :: powers)
        (emission.rotateAdd rotatedId sumId source source shift)
    else (emission,span,powers)

/-- The second loop: the remaining bits of the width, from the highest. -/
def prefixLoop (ordinal width height : ℕ) (powers : List (ℕ × String)) :
    ℕ → ℕ → ℕ → String → Emission → Emission × String
  | 0, _, _, accumulatedId, emission => (emission,accumulatedId)
  | fuel + 1, bit, covered, accumulatedId, emission =>
    if bit = 0 then (emission,accumulatedId)
    else if width &&& bit ≠ 0 then
      let shift := covered * height
      let rotatedId : Name := ⟨.ssaRotate,ordinal,some covered⟩
      let sumId : Name := ⟨.ssaColumnSum,ordinal,some covered⟩
      let source := (powers.lookup bit).getD ""
      prefixLoop ordinal width height powers fuel (bit / 2) (covered + bit) sumId.text
        (emission.rotateAdd rotatedId sumId source accumulatedId shift)
    else prefixLoop ordinal width height powers fuel (bit / 2) covered accumulatedId emission

def appendCsscReduction (ordinal : ℕ) (sourceId : String) (width height : ℕ) (emission : Emission) :
    Emission × String :=
  if width = 1 then (emission,sourceId)
  else
    let doubled := doubleLoop ordinal width height width 1 [(1,sourceId)] emission
    let span := doubled.2.1
    let powers := doubled.2.2
    prefixLoop ordinal width height powers span (span / 2) span ((powers.lookup span).getD "") doubled.1

/-- The doubling loop of a delta page. -/
def segmentLoop (ordinal segmentWidth : ℕ) : ℕ → ℕ → String → Emission → Emission × String
  | 0, _, accumulatedId, emission => (emission,accumulatedId)
  | fuel + 1, shift, accumulatedId, emission =>
    if shift < segmentWidth then
      let rotatedId : Name := ⟨.ssaRotate,ordinal,some shift⟩
      let sumId : Name := ⟨.ssaSegmentSum,ordinal,some (2 * shift)⟩
      segmentLoop ordinal segmentWidth fuel (2 * shift) sumId.text
        (emission.rotateAdd rotatedId sumId accumulatedId accumulatedId shift)
    else (emission,accumulatedId)

def select (slotCount ordinal : ℕ) (selected : ℕ → Bool) (accumulatedId : String)
    (emission : Emission) : Emission × String :=
  let maskId := (Name.mk .ptSelection ordinal none).text
  let selectedId := (Name.mk .ssaSelected ordinal none).text
  ({ emission with
      plaintextMasks := emission.plaintextMasks ++ [⟨maskId,slotCount,
        (List.range slotCount).map fun lane => if selected lane then 1 else 0⟩]
      nodes := emission.nodes ++ [.multiplyPlaintextMask selectedId accumulatedId maskId] },
    selectedId)

def finishResult (slotCount : ℕ) (needsMask : ShareIdentity → Bool) (accumulatedId componentId
    outputBlockId : String) (emission : Emission) : Emission × String :=
  let ordinal := emission.resultOrdinal
  let resultId := (Name.mk .result ordinal none).text
  if needsMask (toLex (componentId,outputBlockId)) then
    let f1mId := (Name.mk .ctF1m ordinal none).text
    let maskedId := (Name.mk .ssaMasked ordinal none).text
    ({ emission with
        ciphertextInputs := emission.ciphertextInputs ++ [⟨f1mId,.f1mMask,slotCount⟩]
        nodes := emission.nodes ++ [.addF1MMask maskedId accumulatedId f1mId opaqueZeroSum,
          .returnResult resultId maskedId]
        resultIds := emission.resultIds ++ [resultId]
        routes := emission.routes ++ [⟨resultId,some f1mId,componentId,outputBlockId⟩]
        resultOrdinal := ordinal + 1 },resultId)
  else
    ({ emission with
        nodes := emission.nodes ++ [.returnResult resultId accumulatedId]
        resultIds := emission.resultIds ++ [resultId]
        routes := emission.routes ++ [⟨resultId,none,componentId,outputBlockId⟩]
        resultOrdinal := ordinal + 1 },resultId)

def appendSpecs (specs : List OperandSpec) (emission : Emission) : Emission :=
  { emission with operandSpecs := emission.operandSpecs ++ specs }

end Emission

/-- One entry of `pending_specs`. -/
structure PendingSpec where
  valueId : String
  queryId : String
  sourceOrdinal : ℕ
  values : List ℤ
  columns : List ℤ

/-- The loop state over the chunks of a block: the emission, `selected_ids`, `pending_specs`. -/
structure BlockEmission where
  emission : Emission
  selectedIds : List String
  pendingSpecs : List PendingSpec

/-- The body of the loop over the chunks of a block. -/
def compileChunk (slotCount : ℕ) (state : BlockEmission) (chunk : ValueChunk) : BlockEmission :=
  let sourceOrdinal := state.emission.operandOrdinal
  let operand := (state.emission.appendOperand slotCount).2
  let reduced := (state.emission.appendOperand slotCount).1.appendCsscReduction operand.ordinal
    operand.relinearizedId chunk.width chunk.height
  let selected := if chunk.height < slotCount
    then reduced.1.select slotCount operand.ordinal (fun lane => lane < chunk.height) reduced.2
    else reduced
  { emission := selected.1
    selectedIds := state.selectedIds ++ [selected.2]
    pendingSpecs := state.pendingSpecs ++
      [⟨operand.valueId,operand.queryId,sourceOrdinal,chunk.values,chunk.columnIndices⟩] }

/-- One more chunk of a block added to the accumulated sum. -/
def addSelected (state : Emission × String) (entry : String × ℕ) : Emission × String :=
  let sumId := (Name.mk .ssaResultSum state.1.resultOrdinal (some entry.2)).text
  ({ state.1 with nodes := state.1.nodes ++ [.addCiphertexts sumId state.2 entry.1] },sumId)

/-- The body of the loop over the blocks of a component. -/
def compileBlock (slotCount : ℕ) (needsMask : ShareIdentity → Bool) (component : PublishedComponent)
    (emission : Emission) (block : OutputBlockLayout) : Emission :=
  if block.chunks = [] then emission
  else
    let chunks := block.chunks.foldl (compileChunk slotCount) ⟨emission,[],[]⟩
    let summed := (chunks.selectedIds.tail.zipIdx 1).foldl addSelected
      (chunks.emission,chunks.selectedIds.headD "")
    let finished := summed.1.finishResult slotCount needsMask summed.2 component.componentId
      block.outputBlockId
    finished.1.appendSpecs (chunks.pendingSpecs.map fun pending =>
      ⟨pending.valueId,pending.queryId,.publishedChunk,pending.sourceOrdinal,finished.2,
        pending.values,pending.columns⟩)

def compileComponent (slotCount : ℕ) (needsMask : ShareIdentity → Bool) (emission : Emission)
    (component : PublishedComponent) : Emission :=
  component.blocks.foldl (compileBlock slotCount needsMask component) emission

/-- The selection of a delta page: the first lane of every segment. -/
def segmentLeader (delta : SegmentedDeltaState) (lane : ℕ) : Bool :=
  lane < delta.segmentsPerPage * delta.segmentWidth && lane % delta.segmentWidth == 0

/-- The body of the loop over the pages of the delta; a page is its values, its metadata and its
ordinal. -/
def compilePage (slotCount : ℕ) (needsMask : ShareIdentity → Bool) (delta : SegmentedDeltaState)
    (emission : Emission) (page : (List ℤ × ClientBPageMetadata) × ℕ) : Emission :=
  let operand := (emission.appendOperand slotCount).2
  let summed := (emission.appendOperand slotCount).1.segmentLoop operand.ordinal delta.segmentWidth
    delta.segmentWidth 1 operand.relinearizedId
  let selected := summed.1.select slotCount operand.ordinal (segmentLeader delta) summed.2
  let finished := selected.1.finishResult slotCount needsMask selected.2 strongComponentId
    page.1.2.pageId
  finished.1.appendSpecs [⟨operand.valueId,operand.queryId,.segmentedDeltaPage,page.2,finished.2,
    page.1.1,page.1.2.globalColumnIndices⟩]

namespace PackedCOOSegment

/-- The lanes of a segment that hold a nonzero entry. -/
def active (segment : PackedCOOSegment) : List (ℕ × PackedCOOEntry) :=
  segment.entries.zipIdx.filterMap fun lane =>
    (lane.1.filter fun entry => entry.value ≠ 0).map fun entry => (lane.2,entry)

/-- The entry of a lane; lanes from the capacity on are empty. -/
def laneEntry (segment : PackedCOOSegment) (lane : ℕ) : Option PackedCOOEntry :=
  if lane < segment.capacity then (segment.entries[lane]?).join else none

def values (segment : PackedCOOSegment) (slotCount : ℕ) : List ℤ :=
  (List.range slotCount).map fun lane => ((segment.laneEntry lane).map PackedCOOEntry.value).getD 0

def columns (segment : PackedCOOSegment) (slotCount : ℕ) : List ℤ :=
  (List.range slotCount).map fun lane =>
    ((segment.laneEntry lane).map fun entry => entry.coordinate.col).getD (-1)

def outputShare (segment : PackedCOOSegment) : OutputShare :=
  { componentId := clientLaneComponentId
    outputBlockId := segment.segmentId
    slotToLogical := segment.active.map fun entry => (entry.1,entry.2.coordinate.row) }

end PackedCOOSegment

/-- The body of the loop over the client segments. -/
def compileSegment (slotCount : ℕ) (needsMask : ShareIdentity → Bool) (emission : Emission)
    (segment : PackedCOOSegment × ℕ) : Emission :=
  if segment.1.active = [] then emission
  else
    let operand := (emission.appendOperand slotCount).2
    let finished := (emission.appendOperand slotCount).1.finishResult slotCount needsMask
      operand.relinearizedId clientLaneComponentId segment.1.segmentId
    finished.1.appendSpecs [⟨operand.valueId,operand.queryId,.clientLaneSegment,segment.2,finished.2,
      segment.1.values slotCount,segment.1.columns slotCount⟩]

/-- `extra_shares` of `compile_query`. -/
def extraShares (sources : QuerySources) : Checked (List OutputShare) :=
  match sources.segmentedDelta with
  | some delta => delta.postAggregationOutputShares
  | none => .ok ((sources.clientLaneSegments.filter fun segment => segment.active ≠ []).map
      PackedCOOSegment.outputShare)

def deltaPages (delta : SegmentedDeltaState) : Checked (List ((List ℤ × ClientBPageMetadata) × ℕ)) := do
  let metadata ← delta.clientBPageMetadata
  return ((delta.pageTable 0 StrongEntry.value).zip metadata).zipIdx

/-- The three loops of `compile_query`. -/
def emitSources (slotCount : ℕ) (needsMask : ShareIdentity → Bool) (sources : QuerySources) :
    Checked Emission := do
  let emission := sources.components.foldl (compileComponent slotCount needsMask) Emission.empty
  let emission ← match sources.segmentedDelta with
    | none => pure emission
    | some delta => do
      let pages ← deltaPages delta
      pure (pages.foldl (compilePage slotCount needsMask delta) emission)
  return sources.clientLaneSegments.zipIdx.foldl (compileSegment slotCount needsMask) emission

def Emission.program (slotCount : ℕ) (emission : Emission) : CloudProgram :=
  { format := cloudProgramFormat
    slotCount := slotCount
    ciphertextInputs := emission.ciphertextInputs
    plaintextMasks := emission.plaintextMasks
    nodes := emission.nodes
    resultIds := emission.resultIds
    rotationCatalog := (Sorting.sortedSet id emission.rotationShifts).map fun shift : ℕ =>
      ((shift : ℤ),(shift : ℤ)) }

def validateCompiledParts (sha : Sha256) (compiled : CompiledQuery) : Checked Unit := do
  let shareIds := compiled.outputPlan.shares.map OutputShare.identity
  let routeShareIds := compiled.resultRoutes.map ResultRoute.outputShareId
  let resultIds := compiled.cloudPlan.program.resultIds
  Checked.require (compiled.resultRoutes.length = routeShareIds.dedup.length ∧
      ((∀ id ∈ routeShareIds, id ∈ shareIds) ∧ ∀ id ∈ shareIds, id ∈ routeShareIds) ∧
      compiled.resultRoutes.map ResultRoute.resultId = resultIds)
    (compilerError "result routes must exactly cover the OutputPlan and returns")
  let uniform : Bool := compiled.sources.f1mPolicy = .uniformRandomOrZero
  let required := if uniform then resultIds
    else compiled.outputPlan.requiredOverlapMaskResultIds compiled.resultRoutes
  let masked := (compiled.resultRoutes.filter fun route => route.f1mCiphertextId.isSome).map
    ResultRoute.resultId
  Checked.require ((∀ id ∈ masked, id ∈ required) ∧ ∀ id ∈ required, id ∈ masked)
    (compilerError "result routes do not match the exact F1M policy")
  match validateCloudExecutionPlan sha compiled.cloudPlan (if uniform then none else some required) with
  | .ok done => .ok done
  | .error _ => .error (compilerError "cloud plan does not match the exact F1M policy")

def compileQuery (sha : Sha256) (arguments : QuerySources) : Checked CompiledQuery := do
  let sources ← validatedSources arguments
  match sources.components with
  | [] => .error (compilerError "components must be a non-empty tuple")
  | reference :: _ => do
    let slotCount := reference.layoutSpec.effectiveSlots
    let basePlan ← outputPlanFor sources.components
    let extra ← extraShares sources
    let outputPlan := { basePlan with shares := basePlan.shares ++ extra }
    let outputAnalysis ← outputPlan.analyzeOutputPlan sha
    -- the comprehension is that of the simulator's `_masked_output_share_ids`
    let maskedShareIds := outputPlan.maskedOutputShareIds
    let emission ← emitSources slotCount (fun shareId =>
      sources.f1mPolicy = .uniformRandomOrZero ∨ shareId ∈ maskedShareIds) sources
    let program := emission.program slotCount
    let programDigest ← program.digest sha
    let cloudPlan : CloudExecutionPlan := ⟨program,{
      format := executionBindingFormat
      versionId := reference.versionId
      outputPlanDigest := outputAnalysis.outputPlanDigest
      cloudProgramDigest := programDigest }⟩
    let cloudCounts ← analyzeCloudPlan sha cloudPlan
    let bindingDigest ← executionBindingDigest sha cloudPlan.binding
    let compiled : CompiledQuery := {
      sources := sources
      cloudPlan := cloudPlan
      outputPlan := outputPlan
      operandSpecs := emission.operandSpecs
      resultRoutes := emission.routes
      cloudProgramDigest := programDigest
      outputPlanDigest := outputAnalysis.outputPlanDigest
      executionBindingDigest := bindingDigest
      cloudCounts := cloudCounts
      outputAnalysis := outputAnalysis }
    validateCompiledParts sha compiled
    return compiled

end DynamicCssc
