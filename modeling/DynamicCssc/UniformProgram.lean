import DynamicCssc.QueryAccepted

/-! Under the uniform policy the cloud program is a function of the public shape of the sources: the
private lists of the compilation never reach it. -/
namespace DynamicCssc
open Foundation

/-- The lists that the cloud program is made of, and the counters. -/
def Emission.shown (emission : Emission) : Emission := { emission with operandSpecs := [], routes := [] }

def maskAll : ShareIdentity → Bool := fun _ => true

namespace Emission

private theorem appendOperand_shown (slotCount : ℕ) (emission : Emission) :
    emission.shown.appendOperand slotCount =
      ((emission.appendOperand slotCount).1.shown,(emission.appendOperand slotCount).2) := rfl

private theorem doubleLoop_shown (ordinal width height fuel span : ℕ) (powers : List (ℕ × String))
    (emission : Emission) : doubleLoop ordinal width height fuel span powers emission.shown =
      ((doubleLoop ordinal width height fuel span powers emission).1.shown,
        (doubleLoop ordinal width height fuel span powers emission).2) := by
  induction fuel generalizing span powers emission with
  | zero => rfl
  | succ fuel ih =>
    rw [doubleLoop,doubleLoop]
    split
    · exact ih _ _ (emission.rotateAdd _ _ _ _ _)
    · rfl

private theorem prefixLoop_shown (ordinal width height : ℕ) (powers : List (ℕ × String)) (fuel bit covered : ℕ)
    (accumulatedId : String) (emission : Emission) :
    prefixLoop ordinal width height powers fuel bit covered accumulatedId emission.shown =
      ((prefixLoop ordinal width height powers fuel bit covered accumulatedId emission).1.shown,
        (prefixLoop ordinal width height powers fuel bit covered accumulatedId emission).2) := by
  induction fuel generalizing bit covered accumulatedId emission with
  | zero => rfl
  | succ fuel ih =>
    rw [prefixLoop,prefixLoop]
    split
    · rfl
    · split
      · exact ih _ _ _ (emission.rotateAdd _ _ _ _ _)
      · exact ih _ _ _ emission

private theorem appendCsscReduction_shown (ordinal : ℕ) (sourceId : String) (width height : ℕ)
    (emission : Emission) : emission.shown.appendCsscReduction ordinal sourceId width height =
      ((emission.appendCsscReduction ordinal sourceId width height).1.shown,
        (emission.appendCsscReduction ordinal sourceId width height).2) := by
  rw [appendCsscReduction,appendCsscReduction]
  split
  · rfl
  · dsimp only
    rw [doubleLoop_shown]
    exact prefixLoop_shown _ _ _ _ _ _ _ _ _

private theorem segmentLoop_shown (ordinal segmentWidth fuel shift : ℕ) (accumulatedId : String)
    (emission : Emission) : segmentLoop ordinal segmentWidth fuel shift accumulatedId emission.shown =
      ((segmentLoop ordinal segmentWidth fuel shift accumulatedId emission).1.shown,
        (segmentLoop ordinal segmentWidth fuel shift accumulatedId emission).2) := by
  induction fuel generalizing shift accumulatedId emission with
  | zero => rfl
  | succ fuel ih =>
    rw [segmentLoop,segmentLoop]
    split
    · exact ih _ _ (emission.rotateAdd _ _ _ _ _)
    · rfl

private theorem finishResult_shown (slotCount : ℕ) (accumulatedId leftComponent leftBlock rightComponent
    rightBlock : String) (left right : Emission) (same : left.shown = right.shown) :
    (left.finishResult slotCount maskAll accumulatedId leftComponent leftBlock).1.shown =
      (right.finishResult slotCount maskAll accumulatedId rightComponent rightBlock).1.shown := by
  obtain ⟨inputs,masks,nodes,resultIds,specs,routes,shifts,operands,results⟩ := left
  obtain ⟨inputs',masks',nodes',resultIds',specs',routes',shifts',operands',results'⟩ := right
  simp only [shown,Emission.mk.injEq] at same
  obtain ⟨rfl,rfl,rfl,rfl,_,_,rfl,rfl,rfl⟩ := same
  rfl

private theorem appendSpecs_shown (specs : List OperandSpec) (emission : Emission) :
    (emission.appendSpecs specs).shown = emission.shown := rfl

end Emission

def BlockEmission.shown (state : BlockEmission) : BlockEmission :=
  ⟨state.emission.shown,state.selectedIds,[]⟩

def ValueChunk.extent (chunk : ValueChunk) : ℕ × ℕ := (chunk.width,chunk.height)

private theorem compileChunk_shown (slotCount : ℕ) (left right : BlockEmission) (leftChunk rightChunk : ValueChunk)
    (same : left.shown = right.shown) (extent : leftChunk.extent = rightChunk.extent) :
    (compileChunk slotCount left leftChunk).shown = (compileChunk slotCount right rightChunk).shown := by
  have body (state : BlockEmission) (chunk : ValueChunk) : (compileChunk slotCount state chunk).shown =
      (compileChunk slotCount state.shown ⟨"",0,chunk.width,chunk.height,0,0,0,[]⟩).shown := by
    rw [compileChunk,compileChunk]
    dsimp only [BlockEmission.shown]
    rw [Emission.appendOperand_shown,Emission.appendCsscReduction_shown]
    split <;> rfl
  have sizes := Prod.mk.inj extent
  rw [body left,body right,same,sizes.1,sizes.2]

private theorem compileChunks_shown (slotCount : ℕ) (leftChunks rightChunks : List ValueChunk)
    (extents : leftChunks.map ValueChunk.extent = rightChunks.map ValueChunk.extent)
    (left right : BlockEmission) (same : left.shown = right.shown) :
    (leftChunks.foldl (compileChunk slotCount) left).shown =
      (rightChunks.foldl (compileChunk slotCount) right).shown := by
  induction leftChunks generalizing rightChunks left right with
  | nil =>
    rw [List.map_nil,eq_comm,List.map_eq_nil_iff] at extents
    rw [extents]
    exact same
  | cons chunk leftChunks ih =>
    obtain _ | ⟨other,rightChunks⟩ := rightChunks
    · cases extents
    · obtain ⟨first,rest⟩ := List.cons.inj extents
      exact ih rightChunks rest _ _ (compileChunk_shown slotCount left right chunk other same first)

private theorem addSelecteds_shown (ids : List (String × ℕ)) (state : Emission × String) :
    ids.foldl addSelected (state.1.shown,state.2) =
      ((ids.foldl addSelected state).1.shown,(ids.foldl addSelected state).2) := by
  induction ids generalizing state with
  | nil => rfl
  | cons id ids ih => exact ih (addSelected state id)

def OutputBlockLayout.extents (block : OutputBlockLayout) : List (ℕ × ℕ) := block.chunks.map ValueChunk.extent

private theorem compileBlock_shown (slotCount : ℕ) (leftComponent rightComponent : PublishedComponent)
    (left right : Emission) (leftBlock rightBlock : OutputBlockLayout) (same : left.shown = right.shown)
    (nonempty : leftBlock.chunks ≠ []) (extents : leftBlock.extents = rightBlock.extents) :
    (compileBlock slotCount maskAll leftComponent left leftBlock).shown =
      (compileBlock slotCount maskAll rightComponent right rightBlock).shown := by
  have other : rightBlock.chunks ≠ [] := by
    intro empty
    rw [OutputBlockLayout.extents,OutputBlockLayout.extents,empty,List.map_nil,List.map_eq_nil_iff] at extents
    exact nonempty extents
  have chunks := compileChunks_shown slotCount leftBlock.chunks rightBlock.chunks extents
    ⟨left,[],[]⟩ ⟨right,[],[]⟩ (by rw [BlockEmission.shown,BlockEmission.shown,same])
  rw [compileBlock,compileBlock,if_neg nonempty,if_neg other]
  dsimp only
  rw [Emission.appendSpecs_shown,Emission.appendSpecs_shown]
  generalize leftBlock.chunks.foldl (compileChunk slotCount) ⟨left,[],[]⟩ = leftState at *
  generalize rightBlock.chunks.foldl (compileChunk slotCount) ⟨right,[],[]⟩ = rightState at *
  obtain ⟨emission,selectedIds,_⟩ := leftState
  obtain ⟨emission',selectedIds',_⟩ := rightState
  simp only [BlockEmission.shown,BlockEmission.mk.injEq,and_true] at chunks
  obtain ⟨shown,rfl⟩ := chunks
  have summed := (addSelecteds_shown (selectedIds.tail.zipIdx 1) (emission,selectedIds.headD "")).symm.trans
    ((congrArg (fun first => (selectedIds.tail.zipIdx 1).foldl addSelected (first,selectedIds.headD "")) shown).trans
      (addSelecteds_shown (selectedIds.tail.zipIdx 1) (emission',selectedIds.headD "")))
  obtain ⟨emissions,ids⟩ := Prod.mk.inj summed
  dsimp only
  rw [ids]
  exact Emission.finishResult_shown slotCount _ _ _ _ _ _ _ emissions

def PublishedComponent.extents (component : PublishedComponent) : List (List (ℕ × ℕ)) :=
  (component.blocks.filter fun block => block.chunks ≠ []).map OutputBlockLayout.extents

/-- One nonempty block, with its component, after another. -/
def compileEntry (slotCount : ℕ) (emission : Emission) (entry : PublishedComponent × OutputBlockLayout) :
    Emission :=
  compileBlock slotCount maskAll entry.1 emission entry.2

def blockEntries (components : List PublishedComponent) : List (PublishedComponent × OutputBlockLayout) :=
  components.flatMap fun component =>
    (component.blocks.filter fun block => block.chunks ≠ []).map fun block => (component,block)

private theorem compileBlocks_entries (slotCount : ℕ) (component : PublishedComponent)
    (blocks : List OutputBlockLayout) (emission : Emission) :
    blocks.foldl (compileBlock slotCount maskAll component) emission =
      ((blocks.filter fun block => block.chunks ≠ []).map fun block => (component,block)).foldl
        (compileEntry slotCount) emission := by
  induction blocks generalizing emission with
  | nil => rfl
  | cons block blocks ih =>
    rw [List.foldl_cons,ih]
    by_cases empty : block.chunks = []
    · rw [List.filter_cons_of_neg (by simpa using empty),compileBlock,if_pos empty]
    · rw [List.filter_cons_of_pos (by simpa using empty)]
      rfl

private theorem compileComponents_entries (slotCount : ℕ) (components : List PublishedComponent)
    (emission : Emission) : components.foldl (compileComponent slotCount maskAll) emission =
      (blockEntries components).foldl (compileEntry slotCount) emission := by
  induction components generalizing emission with
  | nil => rfl
  | cons component components ih =>
    have entries : blockEntries (component :: components) =
        ((component.blocks.filter fun block => block.chunks ≠ []).map fun block => (component,block)) ++
          blockEntries components := List.flatMap_cons
    rw [List.foldl_cons,ih,entries,List.foldl_append,compileComponent,compileBlocks_entries]

private theorem compileEntries_shown (slotCount : ℕ) (leftEntries rightEntries :
    List (PublishedComponent × OutputBlockLayout)) (nonempty : ∀ entry ∈ leftEntries, entry.2.chunks ≠ [])
    (extents : leftEntries.map (fun entry => entry.2.extents) = rightEntries.map fun entry => entry.2.extents)
    (left right : Emission) (same : left.shown = right.shown) :
    (leftEntries.foldl (compileEntry slotCount) left).shown =
      (rightEntries.foldl (compileEntry slotCount) right).shown := by
  induction leftEntries generalizing rightEntries left right with
  | nil =>
    rw [List.map_nil,eq_comm,List.map_eq_nil_iff] at extents
    rw [extents]
    exact same
  | cons entry leftEntries ih =>
    obtain _ | ⟨other,rightEntries⟩ := rightEntries
    · cases extents
    · obtain ⟨first,rest⟩ := List.cons.inj extents
      exact ih rightEntries (fun later member => nonempty later (by simp [member])) rest _ _
        (compileBlock_shown slotCount entry.1 other.1 left right entry.2 other.2 same
          (nonempty entry (by simp)) first)

private theorem blockEntries_extents (components : List PublishedComponent) :
    (blockEntries components).map (fun entry => entry.2.extents) =
      components.flatMap PublishedComponent.extents := by
  rw [blockEntries,List.map_flatMap]
  congr 1
  funext component
  rw [List.map_map]
  rfl

private theorem compilePage_shown (slotCount : ℕ) (leftDelta rightDelta : SegmentedDeltaState)
    (width : leftDelta.segmentWidth = rightDelta.segmentWidth)
    (slots : leftDelta.effectiveSlots = rightDelta.effectiveSlots) (left right : Emission)
    (same : left.shown = right.shown) (leftPage rightPage : (List ℤ × ClientBPageMetadata) × ℕ) :
    (compilePage slotCount maskAll leftDelta left leftPage).shown =
      (compilePage slotCount maskAll rightDelta right rightPage).shown := by
  have leader : segmentLeader leftDelta = segmentLeader rightDelta := by
    funext lane
    rw [segmentLeader,segmentLeader,SegmentedDeltaState.segmentsPerPage,
      SegmentedDeltaState.segmentsPerPage,width,slots]
  have operand : ((left.appendOperand slotCount).1.shown,(left.appendOperand slotCount).2) =
      ((right.appendOperand slotCount).1.shown,(right.appendOperand slotCount).2) := by
    rw [← Emission.appendOperand_shown,same,Emission.appendOperand_shown]
  obtain ⟨shown,operands⟩ := Prod.mk.inj operand
  rw [compilePage,compilePage,Emission.appendSpecs_shown,Emission.appendSpecs_shown,operands,width,leader]
  generalize (left.appendOperand slotCount).1 = leftNext at *
  generalize (right.appendOperand slotCount).1 = rightNext at *
  generalize (right.appendOperand slotCount).2 = appended at *
  have summed := (Emission.segmentLoop_shown appended.ordinal rightDelta.segmentWidth
    rightDelta.segmentWidth 1 appended.relinearizedId leftNext).symm.trans ((congrArg
      (fun first => Emission.segmentLoop appended.ordinal rightDelta.segmentWidth rightDelta.segmentWidth 1
        appended.relinearizedId first) shown).trans
      (Emission.segmentLoop_shown appended.ordinal rightDelta.segmentWidth rightDelta.segmentWidth 1
        appended.relinearizedId rightNext))
  obtain ⟨emissions,ids⟩ := Prod.mk.inj summed
  rw [ids]
  refine Emission.finishResult_shown slotCount _ _ _ _ _ _ _ ?_
  exact congrArg (fun emission => (emission.select slotCount appended.ordinal (segmentLeader rightDelta)
    (Emission.segmentLoop appended.ordinal rightDelta.segmentWidth rightDelta.segmentWidth 1
      appended.relinearizedId rightNext).2).1) emissions

private theorem compilePages_shown (slotCount : ℕ) (leftDelta rightDelta : SegmentedDeltaState)
    (width : leftDelta.segmentWidth = rightDelta.segmentWidth)
    (slots : leftDelta.effectiveSlots = rightDelta.effectiveSlots)
    (leftPages rightPages : List ((List ℤ × ClientBPageMetadata) × ℕ))
    (count : leftPages.length = rightPages.length) (left right : Emission)
    (same : left.shown = right.shown) :
    (leftPages.foldl (compilePage slotCount maskAll leftDelta) left).shown =
      (rightPages.foldl (compilePage slotCount maskAll rightDelta) right).shown := by
  induction leftPages generalizing rightPages left right with
  | nil =>
    rw [List.length_nil,eq_comm,List.length_eq_zero_iff] at count
    rw [count]
    exact same
  | cons page leftPages ih =>
    obtain _ | ⟨other,rightPages⟩ := rightPages
    · cases count
    · exact ih rightPages (by simpa using count) _ _
        (compilePage_shown slotCount leftDelta rightDelta width slots left right same page other)

private theorem compileSegment_shown (slotCount : ℕ) (left right : Emission) (same : left.shown = right.shown)
    (leftSegment rightSegment : PackedCOOSegment × ℕ) (leftActive : leftSegment.1.active ≠ [])
    (rightActive : rightSegment.1.active ≠ []) :
    (compileSegment slotCount maskAll left leftSegment).shown =
      (compileSegment slotCount maskAll right rightSegment).shown := by
  have operand : ((left.appendOperand slotCount).1.shown,(left.appendOperand slotCount).2) =
      ((right.appendOperand slotCount).1.shown,(right.appendOperand slotCount).2) := by
    rw [← Emission.appendOperand_shown,same,Emission.appendOperand_shown]
  obtain ⟨shown,operands⟩ := Prod.mk.inj operand
  rw [compileSegment,compileSegment,if_neg leftActive,if_neg rightActive]
  dsimp only
  rw [Emission.appendSpecs_shown,Emission.appendSpecs_shown,operands]
  exact Emission.finishResult_shown slotCount _ _ _ _ _ _ _ shown

private theorem compileSegments_filter (slotCount : ℕ) (segments : List (PackedCOOSegment × ℕ))
    (emission : Emission) : segments.foldl (compileSegment slotCount maskAll) emission =
      (segments.filter fun segment => segment.1.active ≠ []).foldl (compileSegment slotCount maskAll)
        emission := by
  induction segments generalizing emission with
  | nil => rfl
  | cons segment segments ih =>
    rw [List.foldl_cons,ih]
    by_cases empty : segment.1.active = []
    · rw [List.filter_cons_of_neg (by simpa using empty),compileSegment,if_pos empty]
    · rw [List.filter_cons_of_pos (by simpa using empty),List.foldl_cons]

private theorem compileSegments_shown (slotCount : ℕ) (leftSegments rightSegments : List (PackedCOOSegment × ℕ))
    (leftActive : ∀ segment ∈ leftSegments, segment.1.active ≠ [])
    (rightActive : ∀ segment ∈ rightSegments, segment.1.active ≠ [])
    (count : leftSegments.length = rightSegments.length) (left right : Emission)
    (same : left.shown = right.shown) :
    (leftSegments.foldl (compileSegment slotCount maskAll) left).shown =
      (rightSegments.foldl (compileSegment slotCount maskAll) right).shown := by
  induction leftSegments generalizing rightSegments left right with
  | nil =>
    rw [List.length_nil,eq_comm,List.length_eq_zero_iff] at count
    rw [count]
    exact same
  | cons segment leftSegments ih =>
    obtain _ | ⟨other,rightSegments⟩ := rightSegments
    · cases count
    · exact ih rightSegments (fun later member => leftActive later (by simp [member]))
        (fun later member => rightActive later (by simp [member])) (by simpa using count) _ _
        (compileSegment_shown slotCount left right same segment other (leftActive segment (by simp))
          (rightActive other (by simp)))

/-- What the cloud may know of the sources: the number of slots, the chunk extents of the nonempty
blocks in the order of the component identifiers, the segment width and page count of the delta, and
the number of client segments that hold anything. -/
structure PublicShape where
  slotCount : Option ℕ
  blocks : List (List (ℕ × ℕ))
  delta : Option (ℕ × ℕ)
  activeSegments : ℕ
deriving DecidableEq, Repr

def QuerySources.publicShape (sources : QuerySources) : PublicShape :=
  let components := Sorting.sortedBy PublishedComponent.componentId sources.components
  { slotCount := components.head?.map fun component => component.layoutSpec.effectiveSlots
    blocks := components.flatMap PublishedComponent.extents
    delta := sources.segmentedDelta.map fun delta => (delta.segmentWidth,delta.pageCount)
    activeSegments := sources.clientLaneSegments.countP fun segment => segment.active ≠ [] }

private theorem deltaPages_length (delta : SegmentedDeltaState) (pages : List ((List ℤ × ClientBPageMetadata) × ℕ))
    (read : deltaPages delta = .ok pages) : pages.length = delta.pageCount := by
  simp only [deltaPages,SegmentedDeltaState.clientBPageMetadata,Checked.bind_success,pure,Except.pure,
    Except.ok.injEq] at read
  obtain ⟨metadata,⟨_,_,rfl⟩,rfl⟩ := read
  simp

/-- The three loops of the compiler show the shape of the sources only. -/
private theorem emitSources_shown (slotCount : ℕ) (left right : QuerySources) (leftEmission rightEmission : Emission)
    (blocks : left.components.flatMap PublishedComponent.extents =
      right.components.flatMap PublishedComponent.extents)
    (deltas : left.segmentedDelta.map (fun delta => (delta.segmentWidth,delta.pageCount)) =
      right.segmentedDelta.map fun delta => (delta.segmentWidth,delta.pageCount))
    (leftSlots : ∀ delta ∈ left.segmentedDelta, delta.effectiveSlots = slotCount)
    (rightSlots : ∀ delta ∈ right.segmentedDelta, delta.effectiveSlots = slotCount)
    (segments : (left.clientLaneSegments.countP fun segment => segment.active ≠ []) =
      right.clientLaneSegments.countP fun segment => segment.active ≠ [])
    (leftRun : emitSources slotCount maskAll left = .ok leftEmission)
    (rightRun : emitSources slotCount maskAll right = .ok rightEmission) :
    leftEmission.shown = rightEmission.shown := by
  have components : (left.components.foldl (compileComponent slotCount maskAll) Emission.empty).shown =
      (right.components.foldl (compileComponent slotCount maskAll) Emission.empty).shown := by
    rw [compileComponents_entries,compileComponents_entries]
    refine compileEntries_shown slotCount _ _ ?_ ?_ _ _ rfl
    · intro entry member
      obtain ⟨component,_,inside⟩ := List.mem_flatMap.mp member
      obtain ⟨block,kept,rfl⟩ := List.mem_map.mp inside
      simpa using (List.mem_filter.mp kept).2
    · rw [blockEntries_extents,blockEntries_extents,blocks]
  have last (first second : Emission) (same : first.shown = second.shown) :
      (left.clientLaneSegments.zipIdx.foldl (compileSegment slotCount maskAll) first).shown =
        (right.clientLaneSegments.zipIdx.foldl (compileSegment slotCount maskAll) second).shown := by
    have count (items : List PackedCOOSegment) :
        (items.zipIdx.filter fun segment => segment.1.active ≠ []).length =
          items.countP fun segment => segment.active ≠ [] := by
      rw [← List.countP_eq_length_filter]
      conv_rhs => rw [← List.zipIdx_map_fst 0 items,List.countP_map]
      rfl
    rw [compileSegments_filter slotCount left.clientLaneSegments.zipIdx,
      compileSegments_filter slotCount right.clientLaneSegments.zipIdx]
    refine compileSegments_shown slotCount _ _ ?_ ?_ ?_ _ _ same
    · intro segment member
      simpa using (List.mem_filter.mp member).2
    · intro segment member
      simpa using (List.mem_filter.mp member).2
    · rw [count,count,segments]
  rw [emitSources] at leftRun rightRun
  cases leftDelta : left.segmentedDelta with
  | none =>
    rw [leftDelta,Option.map_none,eq_comm,Option.map_eq_none_iff] at deltas
    simp only [leftDelta,pure,Except.pure,Checked.ok_bind,Except.ok.injEq] at leftRun
    simp only [deltas,pure,Except.pure,Checked.ok_bind,Except.ok.injEq] at rightRun
    rw [← leftRun,← rightRun]
    exact last _ _ components
  | some delta =>
    rw [leftDelta,Option.map_some,eq_comm,Option.map_eq_some_iff] at deltas
    obtain ⟨other,rightDelta,same⟩ := deltas
    obtain ⟨widths,pageCounts⟩ := Prod.mk.inj same
    rw [leftDelta] at leftRun
    rw [rightDelta] at rightRun
    obtain ⟨leftPages,leftRead,leftRun⟩ := (Checked.bind_success _ _ _).mp leftRun
    obtain ⟨rightPages,rightRead,rightRun⟩ := (Checked.bind_success _ _ _).mp rightRun
    simp only [pure,Except.pure,Checked.ok_bind,Except.ok.injEq] at leftRun rightRun
    rw [← leftRun,← rightRun]
    refine last _ _ (compilePages_shown slotCount delta other widths.symm ?_ _ _ ?_ _ _ components)
    · rw [leftSlots delta leftDelta,rightSlots other rightDelta]
    · rw [deltaPages_length _ _ leftRead,deltaPages_length _ _ rightRead,pageCounts]

theorem compileQuery_read (sha : Sha256) (arguments : QuerySources) (compiled : CompiledQuery)
    (run : compileQuery sha arguments = .ok compiled) :
    ∃ sources reference others masked emission, validatedSources arguments = .ok sources ∧
      sources.components = reference :: others ∧
      emitSources reference.layoutSpec.effectiveSlots (fun shareId =>
        sources.f1mPolicy = .uniformRandomOrZero ∨ shareId ∈ OutputPlan.maskedOutputShareIds masked) sources =
          .ok emission ∧
      compiled.cloudPlan.program = emission.program reference.layoutSpec.effectiveSlots ∧
      compiled.cloudPlan.program.digest sha = .ok compiled.cloudProgramDigest := by
  rw [compileQuery,Checked.bind_success] at run
  obtain ⟨sources,valid,run⟩ := run
  cases listed : sources.components with
  | nil =>
    rw [listed] at run
    cases run
  | cons reference others =>
    rw [listed] at run
    simp only [Checked.bind_success,pure,Except.pure,Except.ok.injEq] at run
    obtain ⟨basePlan,_,extra,_,analysis,_,emission,emitted,digest,digested,_,_,_,_,_,_,rfl⟩ := run
    exact ⟨sources,reference,others,_,emission,valid,listed,emitted,rfl,digested⟩

/-- Sources of one public shape compile to one cloud program under the uniform policy. -/
theorem uniform_program_of_shape (sha : Sha256) (left right : QuerySources)
    (leftCompiled rightCompiled : CompiledQuery) (leftPolicy : left.f1mPolicy = .uniformRandomOrZero)
    (rightPolicy : right.f1mPolicy = .uniformRandomOrZero)
    (leftRun : compileQuery sha left = .ok leftCompiled)
    (rightRun : compileQuery sha right = .ok rightCompiled) (shapes : left.publicShape = right.publicShape) :
    leftCompiled.cloudPlan.program = rightCompiled.cloudPlan.program ∧
      leftCompiled.cloudPlan.program.canonicalPayload = rightCompiled.cloudPlan.program.canonicalPayload ∧
      leftCompiled.cloudProgramDigest = rightCompiled.cloudProgramDigest := by
  obtain ⟨sources,reference,others,masked,emission,valid,listed,emitted,program,digest⟩ :=
    compileQuery_read sha left leftCompiled leftRun
  obtain ⟨sources',reference',others',masked',emission',valid',listed',emitted',program',digest'⟩ :=
    compileQuery_read sha right rightCompiled rightRun
  obtain ⟨first,accepted⟩ := validatedSources_read left sources valid
  obtain ⟨first',accepted'⟩ := validatedSources_read right sources' valid'
  have isFirst := accepted.first
  have isFirst' := accepted'.first
  rw [listed,List.head?_cons,Option.some.injEq] at isFirst
  rw [listed',List.head?_cons,Option.some.injEq] at isFirst'
  subst isFirst isFirst'
  have slotsOf (delta : SegmentedDeltaState) (component : PublishedComponent)
      (components : List PublishedComponent) (held : DeltaAccepted component components delta) :
      delta.effectiveSlots = component.layoutSpec.effectiveSlots := by
    have same := held.dimensions
    simp only [LayoutSpec.dimensions,Prod.mk.injEq] at same
    exact same.2.2
  have policy : (fun shareId => decide (sources.f1mPolicy = .uniformRandomOrZero ∨
      shareId ∈ OutputPlan.maskedOutputShareIds masked)) = maskAll := by
    funext shareId
    simp [maskAll,accepted.policy,leftPolicy]
  have policy' : (fun shareId => decide (sources'.f1mPolicy = .uniformRandomOrZero ∨
      shareId ∈ OutputPlan.maskedOutputShareIds masked')) = maskAll := by
    funext shareId
    simp [maskAll,accepted'.policy,rightPolicy]
  rw [policy] at emitted
  rw [policy'] at emitted'
  simp only [QuerySources.publicShape,PublicShape.mk.injEq,← accepted.components,← accepted'.components,listed,
    listed',List.head?_cons,Option.map_some,Option.some.injEq] at shapes
  obtain ⟨slots,blocks,deltas,segments⟩ := shapes
  have shown := emitSources_shown reference.layoutSpec.effectiveSlots sources sources' emission emission'
    (by rw [listed,listed',blocks]) (by rw [accepted.delta,accepted'.delta,deltas])
    (fun delta isDelta => slotsOf delta reference _ (accepted.delta_accepted delta isDelta))
    (fun delta isDelta => (slotsOf delta reference' _ (accepted'.delta_accepted delta isDelta)).trans slots.symm)
    (by
      rw [accepted.segments,accepted'.segments,(Sorting.sortedBy_perm _ _).countP_eq,
        (Sorting.sortedBy_perm _ _).countP_eq,segments]) emitted (slots ▸ emitted')
  have same : emission.program reference.layoutSpec.effectiveSlots =
      emission'.program reference'.layoutSpec.effectiveSlots := by
    rw [← slots]
    show emission.shown.program _ = emission'.shown.program _
    rw [shown]
  have programs : leftCompiled.cloudPlan.program = rightCompiled.cloudPlan.program := by
    rw [program,program',same]
  refine ⟨programs,by rw [programs],?_⟩
  rw [programs,digest'] at digest
  exact (Except.ok.inj digest).symm

/-- One chunk over two rows and one segment of a delta. -/
def twoRows (rowMap : List ℤ) (lanes : List Lane) (coordinateSlots : List (Coordinate × SlotLocation))
    (availableSlots : List (ℤ × LaneKind × SlotLocation)) (ownerRow : ℤ)
    (entries : List (Option StrongEntry)) : QuerySources :=
  ⟨[⟨"base","v0",⟨2,2,2,2⟩,[⟨"h0",0,2,rowMap,[1,1],[⟨"c0",0,1,2,coordinateSlots.length,0,2,lanes⟩]⟩],
    coordinateSlots,availableSlots⟩],
    some ⟨2,2,2,2,9,"v0",[⟨"segment-000000",0,0,0,ownerRow,entries⟩]⟩,[],.uniformRandomOrZero⟩

/-- Two entries in the order of their rows; the delta meets the first row. -/
def inOrder : QuerySources := twoRows [0,1]
  [⟨5,0,some ⟨0,0⟩,some 0,.actual⟩,⟨3,1,some ⟨1,1⟩,some 1,.actual⟩]
  [(⟨0,0⟩,⟨"base","c0",0⟩),(⟨1,1⟩,⟨"base","c0",1⟩)] [] 0 [some ⟨0,1,2⟩,none]

/-- The rows exchanged, one entry deleted; the delta meets the second row and is full. -/
def exchanged : QuerySources := twoRows [1,0]
  [⟨-4,0,some ⟨1,0⟩,some 1,.actual⟩,⟨0,1,none,some 0,.tombstone⟩]
  [(⟨1,0⟩,⟨"base","c0",0⟩)] [(0,.tombstone,⟨"base","c0",1⟩)] 1 [some ⟨1,1,7⟩,some ⟨1,0,0⟩]

theorem exchanged_program : ∃ left right, compileQuery constantSha inOrder = .ok left ∧
    compileQuery constantSha exchanged = .ok right ∧
      left.cloudPlan.program = right.cloudPlan.program := by
  have compiles : ((compileQuery constantSha inOrder).toOption.any fun _ => true) = true ∧
      ((compileQuery constantSha exchanged).toOption.any fun _ => true) = true := by decide +kernel
  obtain ⟨left,leftRun,_⟩ := Checked.ok_of_any _ _ compiles.1
  obtain ⟨right,rightRun,_⟩ := Checked.ok_of_any _ _ compiles.2
  exact ⟨left,right,leftRun,rightRun,(uniform_program_of_shape constantSha _ _ left right rfl rfl leftRun
    rightRun (by decide +kernel)).1⟩

end DynamicCssc
