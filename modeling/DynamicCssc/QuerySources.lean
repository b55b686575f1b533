import DynamicCssc.QueryOutcomes

/-! The loops of the compiler over its sources, each read off as the outcomes it appends. -/
namespace DynamicCssc
open Foundation CloudProgram

def chunkPart (ordinal : ℕ) (chunk : ValueChunk) : Part :=
  ⟨ordinal,chunk.values,chunk.columnIndices,chunk.width,chunk.height,fun lane => lane < chunk.height⟩

def pagePart (ordinal : ℕ) (delta : SegmentedDeltaState) (page : List ℤ × ClientBPageMetadata) : Part :=
  ⟨ordinal,page.1,page.2.globalColumnIndices,delta.segmentWidth,1,segmentLeader delta⟩

def segmentPart (ordinal slotCount : ℕ) (segment : PackedCOOSegment) : Part :=
  ⟨ordinal,segment.values slotCount,segment.columns slotCount,1,1,fun _ => true⟩

/-- An outcome whose parts do not say which operands they are. -/
def Outcome.erase (outcome : Outcome) : Outcome :=
  { outcome with parts := outcome.parts.map fun part => { part with ordinal := 0 } }

def blockOutcome (component : PublishedComponent) (block : OutputBlockLayout) : Outcome :=
  ⟨component.componentId,block.outputBlockId,block.chunks.map (chunkPart 0)⟩

def componentOutcomes (component : PublishedComponent) : List Outcome :=
  (component.blocks.filter fun block => block.chunks ≠ []).map (blockOutcome component)

def pageOutcome (delta : SegmentedDeltaState) (page : (List ℤ × ClientBPageMetadata) × ℕ) : Outcome :=
  ⟨strongComponentId,page.1.2.pageId,[pagePart 0 delta page.1]⟩

def segmentOutcome (slotCount : ℕ) (segment : PackedCOOSegment) : Outcome :=
  ⟨clientLaneComponentId,segment.segmentId,[segmentPart 0 slotCount segment]⟩

section
variable {R : Type} [CommRing R] {slotCount : ℕ} {needsMask : ShareIdentity → Bool}

/-- The state between two results. -/
structure Standing (R : Type) [CommRing R] (slotCount : ℕ) (needsMask : ShareIdentity → Bool)
    (outcomes : List Outcome) (emission : Emission) : Prop where
  working : Working slotCount needsMask (emission.operandOrdinal,0) emission.operandOrdinal 0 [] emission
  progress : Progress R slotCount needsMask outcomes [] emission

/-- The state between two chunks of a block. -/
structure Building (R : Type) [CommRing R] (slotCount : ℕ) (needsMask : ShareIdentity → Bool)
    (outcomes : List Outcome) (parts : List Part) (state : BlockEmission) : Prop where
  working : Working slotCount needsMask (state.emission.operandOrdinal,0) state.emission.operandOrdinal 0
    state.selectedIds state.emission
  progress : Progress R slotCount needsMask outcomes parts state.emission
  computes : List.Forall₂ (Computes R slotCount state.emission) parts state.selectedIds
  pending : state.pendingSpecs.map (fun spec => (spec.valueId,spec.queryId,spec.values,spec.columns)) =
    parts.map Part.key

/-- The rectangle of a chunk fits a ciphertext. -/
structure ChunkFits (slotCount : ℕ) (chunk : ValueChunk) : Prop where
  wide : 0 < chunk.width
  tall : 0 < chunk.height
  fits : chunk.width * chunk.height ≤ slotCount

private theorem ChunkFits.part_fits {chunk : ValueChunk} (fits : ChunkFits slotCount chunk) (ordinal : ℕ) :
    (chunkPart ordinal chunk).Fits slotCount := by
  intro lane _ selected
  have below : lane < chunk.height := by simpa [chunkPart] using selected
  have area := fits.fits
  have wide := fits.wide
  show lane + (chunk.width - 1) * chunk.height < slotCount
  have split : chunk.width * chunk.height = (chunk.width - 1) * chunk.height + chunk.height := by
    rw [← Nat.succ_mul]
    congr 1
    omega
  omega

private theorem compileChunk_building (outcomes : List Outcome) (parts : List Part) (state : BlockEmission)
    (chunk : ValueChunk) (fits : ChunkFits slotCount chunk)
    (building : Building R slotCount needsMask outcomes parts state) :
    Building R slotCount needsMask outcomes
      (parts ++ [chunkPart state.emission.operandOrdinal chunk]) (compileChunk slotCount state chunk) := by
  obtain ⟨working,progress,computes,pending⟩ := building
  obtain ⟨emission,selectedIds,pendingSpecs⟩ := state
  dsimp only at *
  have operand := working.operand
  have stepped := progress.operand (chunkPart emission.operandOrdinal chunk) rfl
  have product : Product R slotCount _ (chunkPart emission.operandOrdinal chunk) _ :=
    appendOperand_product emission (chunkPart emission.operandOrdinal chunk) rfl
  obtain ⟨sums,extend,reduced⟩ := appendCsscReduction_sums R emission.operandOrdinal chunk.width
    chunk.height selectedIds _ fits.wide fits.tall fits.fits _
    (operand.advance (emission.operandOrdinal,1) _ _ (by simp) le_rfl le_rfl)
  have masks : emission.plaintextMasks ⊆ (emission.appendOperand slotCount).1.plaintextMasks :=
    List.Subset.refl _
  have nodes : emission.nodes ⊆ (emission.appendOperand slotCount).1.nodes :=
    List.subset_append_left _ _
  have specs : (pendingSpecs ++ [(⟨(emission.appendOperand slotCount).2.valueId,
      (emission.appendOperand slotCount).2.queryId,emission.operandOrdinal,chunk.values,
      chunk.columnIndices⟩ : PendingSpec)]).map
        (fun spec => (spec.valueId,spec.queryId,spec.values,spec.columns)) =
      (parts ++ [chunkPart emission.operandOrdinal chunk]).map Part.key := by
    rw [List.map_append,List.map_append,pending]
    rfl
  rw [compileChunk]
  dsimp only
  generalize reducedEq : (emission.appendOperand slotCount).1.appendCsscReduction
    (emission.appendOperand slotCount).2.ordinal (emission.appendOperand slotCount).2.relinearizedId
    chunk.width chunk.height = out
  have outEq : (emission.appendOperand slotCount).1.appendCsscReduction emission.operandOrdinal
    (emission.appendOperand slotCount).2.relinearizedId chunk.width chunk.height = out := reducedEq
  rw [outEq] at sums extend reduced
  have ordinal : out.1.operandOrdinal = emission.operandOrdinal + 1 := extend.operands
  have later := progress.operand (chunkPart emission.operandOrdinal chunk) rfl |>.later extend
  have old (part : Part) (id : String) (computes : Computes R slotCount emission part id) :
      Computes R slotCount out.1 part id :=
    computes.mono (List.Subset.trans masks extend.masks) (List.Subset.trans nodes extend.nodes)
  split
  · rename_i short
    have chosen := select_extends slotCount emission.operandOrdinal (fun lane => lane < chunk.height)
      out.2 out.1
    have selects : Computes R slotCount _ (chunkPart emission.operandOrdinal chunk) _ :=
      select_computes out.1 (chunkPart emission.operandOrdinal chunk) _ out.2 (product.later extend) sums
        (fits.part_fits _)
    have kept := (reduced.select selectedIds out.2 emission.operandOrdinal
      (fun lane => lane < chunk.height)).advance (emission.operandOrdinal + 1,0) (emission.operandOrdinal + 1)
      0 (by simp) le_rfl le_rfl
    refine ⟨?_,later.later chosen,?_,specs⟩
    · rw [← ordinal,← chosen.operands] at kept
      exact kept
    · exact List.rel_append (computes.imp fun part id computed =>
        (old part id computed).mono chosen.masks chosen.nodes) (.cons selects .nil)
  · rename_i full
    -- a chunk as high as the ciphertext has one column, so nothing was rotated
    have area := fits.fits
    have wide := fits.wide
    have tall := fits.tall
    have one : chunk.width = 1 := by
      by_contra several
      have : 2 * chunk.height ≤ chunk.width * chunk.height := Nat.mul_le_mul_right _ (by omega)
      omega
    have same : out = ((emission.appendOperand slotCount).1,
        (emission.appendOperand slotCount).2.relinearizedId) := by
      rw [← outEq,Emission.appendCsscReduction,if_pos one]
    have direct : Computes R slotCount out.1 (chunkPart emission.operandOrdinal chunk) out.2 := by
      rw [same]
      refine product.computes one ?_
      intro lane inside
      show decide (lane < chunk.height) = true
      rw [decide_eq_true_eq]
      omega
    have kept := reduced.advance (emission.operandOrdinal + 1,0) (emission.operandOrdinal + 1) 0 (by simp)
      (by omega) le_rfl
    refine ⟨?_,later,?_,specs⟩
    · rw [← ordinal] at kept
      exact kept
    · exact List.rel_append (computes.imp old) (.cons direct .nil)

private theorem compileChunks_building (outcomes : List Outcome) (chunks : List ValueChunk)
    (fits : ∀ chunk ∈ chunks, ChunkFits slotCount chunk) (parts : List Part) (state : BlockEmission)
    (building : Building R slotCount needsMask outcomes parts state) :
    ∃ more, more.map (fun part => { part with ordinal := 0 }) = chunks.map (chunkPart 0) ∧
      Building R slotCount needsMask outcomes (parts ++ more)
        (chunks.foldl (compileChunk slotCount) state) := by
  induction chunks generalizing parts state with
  | nil => exact ⟨[],rfl,by simpa using building⟩
  | cons chunk chunks ih =>
    obtain ⟨more,shapes,built⟩ := ih (fun other member => fits other (by simp [member])) _ _
      (compileChunk_building outcomes parts state chunk (fits chunk (by simp)) building)
    refine ⟨chunkPart state.emission.operandOrdinal chunk :: more,?_,?_⟩
    · rw [List.map_cons,List.map_cons,shapes]
      rfl
    · rw [List.foldl_cons]
      simpa using built

/-- The cross sums of a block leave the sum of all its chunks. -/
private theorem addSelected_sums (reductions : ℕ × ℕ) (selections : ℕ) (ids : List String) (later : List Part)
    (minor : ℕ) (accumulated : String) (done : List Part) (emission : Emission)
    (working : Working slotCount needsMask reductions selections minor (accumulated :: ids) emission)
    (summed : Summed R slotCount emission done accumulated)
    (computes : List.Forall₂ (Computes R slotCount emission) later ids) :
    let out := (ids.zipIdx minor).foldl addSelected (emission,accumulated)
    Summed R slotCount out.1 (done ++ later) out.2 ∧ Extends emission out.1 ∧
      ∃ cross, Working slotCount needsMask reductions selections cross [out.2] out.1 := by
  induction ids generalizing later minor accumulated done emission with
  | nil =>
    cases computes
    exact ⟨by simpa using summed,Extends.refl _,minor,working⟩
  | cons id ids ih =>
    obtain _ | ⟨computed,rest⟩ := computes
    rename_i part later
    have extend := addSelected_extends (emission,accumulated) (id,minor)
    have next := working.addSelected accumulated id ids minor
    have node : CloudNode.addCiphertexts
        (Name.mk .ssaResultSum emission.resultOrdinal (some minor)).text accumulated id ∈
          (addSelected (emission,accumulated) (id,minor)).1.nodes := by simp [addSelected]
    have more : Summed R slotCount (addSelected (emission,accumulated) (id,minor)).1 (done ++ [part])
        (addSelected (emission,accumulated) (id,minor)).2 := by
      intro lanes solves
      obtain ⟨rows,quiet⟩ := summed lanes (solves.before extend)
      obtain ⟨lane,quietPart⟩ := computed lanes (solves.before extend)
      constructor
      · intro place inside
        rw [List.map_append,List.sum_append,List.map_singleton,List.sum_singleton,← rows place inside,
          ← lane place inside]
        exact solves.rows _ node place inside
      · intro silent
        exact solves.quiet _ node (quiet fun other member => silent other (by simp [member]))
          (quietPart (silent part (by simp)))
    obtain ⟨final,grown,working⟩ := ih later (minor + 1) _ (done ++ [part]) _ next more
      (rest.imp fun other name computes => computes.mono extend.masks extend.nodes)
    refine ⟨?_,extend.trans grown,working⟩
    simpa using final

private theorem compileBlock_standing (component : PublishedComponent) (outcomes : List Outcome)
    (block : OutputBlockLayout) (fits : ∀ chunk ∈ block.chunks, ChunkFits slotCount chunk)
    (emission : Emission) (standing : Standing R slotCount needsMask outcomes emission) :
    ∃ more, more.map Outcome.erase = (([block].filter fun block => block.chunks ≠ []).map
        (blockOutcome component)) ∧
      Standing R slotCount needsMask (outcomes ++ more)
        (compileBlock slotCount needsMask component emission block) := by
  rw [compileBlock]
  split
  · rename_i empty
    exact ⟨[],by simp [empty],by simpa using standing⟩
  · rename_i nonempty
    have start : Building R slotCount needsMask outcomes [] ⟨emission,[],[]⟩ :=
      ⟨standing.working,standing.progress,.nil,rfl⟩
    obtain ⟨parts,shapes,built⟩ := compileChunks_building outcomes block.chunks fits [] _ start
    rw [List.nil_append] at built
    dsimp only
    generalize block.chunks.foldl (compileChunk slotCount) ⟨emission,[],[]⟩ = state at *
    obtain ⟨after,selectedIds,pendingSpecs⟩ := state
    obtain ⟨working,progress,computes,pending⟩ := built
    dsimp only at *
    obtain _ | ⟨first,rest⟩ := computes
    · simp only [List.map_nil] at shapes
      exact absurd (List.map_eq_nil_iff.mp shapes.symm) nonempty
    · rename_i part id later ids
      have one : Summed R slotCount after [part] id := by
        intro lanes solves
        obtain ⟨rows,quiet⟩ := first lanes solves
        exact ⟨fun lane inside => by simpa using rows lane inside,fun silent => quiet (silent part (by simp))⟩
      obtain ⟨summed,extend,cross,worked⟩ := addSelected_sums _ _ ids later 1 id [part] after
        (working.advance (after.operandOrdinal,0) after.operandOrdinal 1 (.inr ⟨rfl,le_rfl⟩) le_rfl
          (by omega)) one rest
      simp only [List.tail_cons,List.headD_cons]
      generalize (ids.zipIdx 1).foldl addSelected (after,id) = out at *
      have finished := worked.finish out.2 component.componentId block.outputBlockId
      have done := (progress.later extend).finish out.2
        ⟨component.componentId,block.outputBlockId,part :: later⟩ rfl
        (pendingSpecs.map fun spec => ⟨spec.valueId,spec.queryId,.publishedChunk,spec.sourceOrdinal,
          (out.1.finishResult slotCount needsMask out.2 component.componentId block.outputBlockId).2,
          spec.values,spec.columns⟩) (by
        rw [List.map_map,← pending]
        rfl) summed
      refine ⟨[⟨component.componentId,block.outputBlockId,part :: later⟩],?_,?_,done⟩
      · simp [nonempty,Outcome.erase,blockOutcome,shapes]
      · have ordinal : after.operandOrdinal = ((out.1.finishResult slotCount needsMask out.2
            component.componentId block.outputBlockId).1).operandOrdinal := by
          rw [(Progress.finishResult_fields slotCount needsMask out.1 out.2
            ⟨component.componentId,block.outputBlockId,[]⟩).2.2.2.1,extend.operands]
        rw [ordinal] at finished
        exact ⟨finished.drafted,finished.complete,finished.final,finished.results,finished.routes,
          finished.routed⟩

private theorem compileBlocks_standing (component : PublishedComponent) (blocks : List OutputBlockLayout)
    (fits : ∀ block ∈ blocks, ∀ chunk ∈ block.chunks, ChunkFits slotCount chunk)
    (outcomes : List Outcome) (emission : Emission)
    (standing : Standing R slotCount needsMask outcomes emission) :
    ∃ more, more.map Outcome.erase = (blocks.filter fun block => block.chunks ≠ []).map
        (blockOutcome component) ∧
      Standing R slotCount needsMask (outcomes ++ more)
        (blocks.foldl (compileBlock slotCount needsMask component) emission) := by
  induction blocks generalizing outcomes emission with
  | nil => exact ⟨[],rfl,by simpa using standing⟩
  | cons block blocks ih =>
    obtain ⟨first,shape,next⟩ := compileBlock_standing component outcomes block (fits block (by simp))
      emission standing
    obtain ⟨rest,shapes,final⟩ := ih (fun other member => fits other (by simp [member])) _ _ next
    refine ⟨first ++ rest,?_,by simpa using final⟩
    rw [List.map_append,shape,shapes,← List.map_append,← List.filter_append]
    rfl

theorem compileComponents_standing (components : List PublishedComponent)
    (fits : ∀ component ∈ components, ∀ chunk ∈ component.chunks, ChunkFits slotCount chunk)
    (outcomes : List Outcome) (emission : Emission)
    (standing : Standing R slotCount needsMask outcomes emission) :
    ∃ more, more.map Outcome.erase = components.flatMap componentOutcomes ∧
      Standing R slotCount needsMask (outcomes ++ more)
        (components.foldl (compileComponent slotCount needsMask) emission) := by
  induction components generalizing outcomes emission with
  | nil => exact ⟨[],rfl,by simpa using standing⟩
  | cons component components ih =>
    have blocks : ∀ block ∈ component.blocks, ∀ chunk ∈ block.chunks, ChunkFits slotCount chunk :=
      fun block inside chunk member => fits component (by simp) chunk
        (List.mem_flatMap.mpr ⟨block,inside,member⟩)
    obtain ⟨first,shape,next⟩ := compileBlocks_standing component component.blocks blocks outcomes
      emission standing
    obtain ⟨rest,shapes,final⟩ := ih (fun other member => fits other (by simp [member])) _ _ next
    refine ⟨first ++ rest,?_,by simpa [compileComponent] using final⟩
    rw [List.map_append,shape,shapes,List.flatMap_cons]
    rfl

private theorem pagePart_fits (delta : SegmentedDeltaState) (valid : delta.Valid)
    (slots : delta.effectiveSlots = slotCount) (ordinal : ℕ) (page : List ℤ × ClientBPageMetadata) :
    (pagePart ordinal delta page).Fits slotCount := by
  intro lane _ selected
  have leader : lane < delta.segmentsPerPage * delta.segmentWidth ∧ lane % delta.segmentWidth = 0 := by
    simpa [pagePart,segmentLeader] using selected
  obtain ⟨below,first⟩ := leader
  have two := valid.width_two
  have fits := delta.page_fits
  obtain ⟨segment,rfl⟩ := Nat.dvd_of_mod_eq_zero first
  have inside : segment < delta.segmentsPerPage := by
    rw [mul_comm] at below
    exact Nat.lt_of_mul_lt_mul_right below
  have next : (segment + 1) * delta.segmentWidth ≤ delta.segmentsPerPage * delta.segmentWidth :=
    Nat.mul_le_mul_right _ inside
  show delta.segmentWidth * segment + (delta.segmentWidth - 1) * 1 < slotCount
  have room : delta.segmentWidth * segment + delta.segmentWidth =
      (segment + 1) * delta.segmentWidth := by ring
  omega

private theorem finishPart_standing (outcomes : List Outcome) (emission : Emission) (part : Part) (id : String)
    (componentId outputBlockId : String) (spec : OperandSpec) (key : spec.key = part.key)
    (reductions : ℕ × ℕ) (selections : ℕ)
    (working : Working slotCount needsMask reductions selections 0 [id] emission)
    (later : reductions.1 < emission.operandOrdinal ∨
      reductions.1 = emission.operandOrdinal ∧ reductions.2 ≤ 0)
    (more : selections ≤ emission.operandOrdinal)
    (progress : Progress R slotCount needsMask outcomes [part] emission)
    (computes : Computes R slotCount emission part id) :
    Standing R slotCount needsMask (outcomes ++ [⟨componentId,outputBlockId,[part]⟩])
      ((emission.finishResult slotCount needsMask id componentId outputBlockId).1.appendSpecs [spec]) := by
  have one : Summed R slotCount emission [part] id := by
    intro lanes solves
    obtain ⟨rows,quiet⟩ := computes lanes solves
    exact ⟨fun lane inside => by simpa using rows lane inside,fun silent => quiet (silent part (by simp))⟩
  have finished := (working.advance (emission.operandOrdinal,0) emission.operandOrdinal 0 later more
    le_rfl).finish id componentId outputBlockId
  have ordinal : emission.operandOrdinal = ((emission.finishResult slotCount needsMask id componentId
      outputBlockId).1).operandOrdinal :=
    (Progress.finishResult_fields slotCount needsMask emission id
      ⟨componentId,outputBlockId,[part]⟩).2.2.2.1.symm
  rw [ordinal] at finished
  exact ⟨⟨finished.drafted,finished.complete,finished.final,finished.results,finished.routes,
    finished.routed⟩,progress.finish id ⟨componentId,outputBlockId,[part]⟩ rfl [spec] (by simp [key]) one⟩

private theorem compilePage_standing (delta : SegmentedDeltaState) (valid : delta.Valid)
    (slots : delta.effectiveSlots = slotCount) (outcomes : List Outcome)
    (page : (List ℤ × ClientBPageMetadata) × ℕ) (emission : Emission)
    (standing : Standing R slotCount needsMask outcomes emission) :
    ∃ outcome, Outcome.erase outcome = pageOutcome delta page ∧
      Standing R slotCount needsMask (outcomes ++ [outcome])
        (compilePage slotCount needsMask delta emission page) := by
  obtain ⟨working,progress⟩ := standing
  obtain ⟨rounds,isPower⟩ := valid.power
  have operand := working.operand
  rw [List.nil_append] at operand
  have stepped := progress.operand (pagePart emission.operandOrdinal delta page.1) rfl
  have product : Product R slotCount _ (pagePart emission.operandOrdinal delta page.1) _ :=
    appendOperand_product emission (pagePart emission.operandOrdinal delta page.1) rfl
  have fitsRow : delta.segmentWidth ≤ slotCount := slots ▸ valid.width_fits
  obtain ⟨sums,extend,reduced⟩ := segmentLoop_sums R emission.operandOrdinal delta.segmentWidth []
    (emission.appendOperand slotCount).2.relinearizedId fitsRow rounds isPower delta.segmentWidth 1
    (emission.appendOperand slotCount).2.relinearizedId _ 0 rfl (by have := valid.width_two; omega) (by omega)
    (Sums.single _ _ _ _)
    (operand.advance (emission.operandOrdinal,1) _ _ (by simp) le_rfl le_rfl)
  rw [compilePage]
  generalize summedEq : (emission.appendOperand slotCount).1.segmentLoop
    (emission.appendOperand slotCount).2.ordinal delta.segmentWidth delta.segmentWidth 1
    (emission.appendOperand slotCount).2.relinearizedId = out
  have outEq : (emission.appendOperand slotCount).1.segmentLoop emission.operandOrdinal delta.segmentWidth
    delta.segmentWidth 1 (emission.appendOperand slotCount).2.relinearizedId = out := summedEq
  rw [outEq] at sums extend reduced
  have ordinal : out.1.operandOrdinal = emission.operandOrdinal + 1 := extend.operands
  have chosen := select_extends slotCount emission.operandOrdinal (segmentLeader delta) out.2 out.1
  have selects : Computes R slotCount _ (pagePart emission.operandOrdinal delta page.1) _ :=
    select_computes out.1 (pagePart emission.operandOrdinal delta page.1) _ out.2 (product.later extend) sums
      (pagePart_fits delta valid slots _ _)
  have kept := reduced.select [] out.2 emission.operandOrdinal (segmentLeader delta)
  refine ⟨_,?_,finishPart_standing outcomes _ (pagePart emission.operandOrdinal delta page.1) _
    strongComponentId page.1.2.pageId _ rfl _ _ kept ?_ ?_ ((stepped.later extend).later chosen) selects⟩
  · rfl
  · exact .inl (lt_of_lt_of_eq (Nat.lt_succ_self emission.operandOrdinal)
      (chosen.operands.trans ordinal).symm)
  · exact (chosen.operands.trans ordinal).symm.le

theorem compilePages_standing (delta : SegmentedDeltaState) (valid : delta.Valid)
    (slots : delta.effectiveSlots = slotCount) (pages : List ((List ℤ × ClientBPageMetadata) × ℕ))
    (outcomes : List Outcome) (emission : Emission)
    (standing : Standing R slotCount needsMask outcomes emission) :
    ∃ more, more.map Outcome.erase = pages.map (pageOutcome delta) ∧
      Standing R slotCount needsMask (outcomes ++ more)
        (pages.foldl (compilePage slotCount needsMask delta) emission) := by
  induction pages generalizing outcomes emission with
  | nil => exact ⟨[],rfl,by simpa using standing⟩
  | cons page pages ih =>
    obtain ⟨first,shape,next⟩ := compilePage_standing delta valid slots outcomes page emission standing
    obtain ⟨rest,shapes,final⟩ := ih _ _ next
    exact ⟨first :: rest,by simp [shape,shapes],by simpa using final⟩

theorem compileSegments_standing (segments : List (PackedCOOSegment × ℕ)) (outcomes : List Outcome)
    (emission : Emission) (standing : Standing R slotCount needsMask outcomes emission) :
    ∃ more, more.map Outcome.erase = ((segments.map Prod.fst).filter fun segment =>
        segment.active ≠ []).map (segmentOutcome slotCount) ∧
      Standing R slotCount needsMask (outcomes ++ more)
        (segments.foldl (compileSegment slotCount needsMask) emission) := by
  induction segments generalizing outcomes emission with
  | nil => exact ⟨[],rfl,by simpa using standing⟩
  | cons segment segments ih =>
    rw [List.foldl_cons,compileSegment]
    split
    · rename_i empty
      obtain ⟨rest,shapes,final⟩ := ih _ _ standing
      exact ⟨rest,by simp [empty,shapes],final⟩
    · rename_i nonempty
      obtain ⟨working,progress⟩ := standing
      have operand := working.operand
      rw [List.nil_append] at operand
      have stepped := progress.operand (segmentPart emission.operandOrdinal slotCount segment.1) rfl
      have product : Product R slotCount _ (segmentPart emission.operandOrdinal slotCount segment.1) _ :=
        appendOperand_product emission (segmentPart emission.operandOrdinal slotCount segment.1) rfl
      have next := finishPart_standing outcomes _
        (segmentPart emission.operandOrdinal slotCount segment.1) _ clientLaneComponentId
        segment.1.segmentId
        ⟨(emission.appendOperand slotCount).2.valueId,(emission.appendOperand slotCount).2.queryId,
          .clientLaneSegment,segment.2,((emission.appendOperand slotCount).1.finishResult slotCount needsMask
            (emission.appendOperand slotCount).2.relinearizedId clientLaneComponentId
            segment.1.segmentId).2,segment.1.values slotCount,segment.1.columns slotCount⟩ rfl
        (emission.operandOrdinal,0) emission.operandOrdinal operand
        (.inl (Nat.lt_succ_self _)) (Nat.le_succ _) stepped (product.computes rfl fun _ _ => rfl)
      obtain ⟨rest,shapes,final⟩ := ih _ _ next
      refine ⟨_ :: rest,?_,by simpa using final⟩
      simp only [List.map_cons,shapes]
      rw [List.filter_cons,if_pos (by simp [nonempty]),List.map_cons]
      rfl

/-- The outcomes of all sources, in the order of the compiler's loops. -/
def sourceOutcomes (slotCount : ℕ) (sources : QuerySources)
    (pages : List ((List ℤ × ClientBPageMetadata) × ℕ)) : List Outcome :=
  sources.components.flatMap componentOutcomes ++
    (match sources.segmentedDelta with
      | none => []
      | some delta => pages.map (pageOutcome delta)) ++
    (sources.clientLaneSegments.filter fun segment => segment.active ≠ []).map (segmentOutcome slotCount)

end
end DynamicCssc
