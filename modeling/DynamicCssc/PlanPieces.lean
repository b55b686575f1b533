import DynamicCssc.DeltaPieces

/-! The output plan of accepted sources is made of their pieces, and the pieces hold every decoded
entry once. -/
namespace DynamicCssc
open Foundation

def componentPieces (component : PublishedComponent) : List Piece :=
  (component.blocks.filter fun block => block.chunks ≠ []).map (blockPiece component)

def deltaPieces : Option SegmentedDeltaState → List Piece
  | none => []
  | some delta => (List.range delta.pageCount).map (pagePiece delta)

def lanePieces (slotCount : ℕ) (segments : List PackedCOOSegment) : List Piece :=
  (segments.filter fun segment => segment.active ≠ []).map (segmentPiece slotCount)

/-- The pieces of all sources, in the order of the compiler's loops. -/
def sourcePieces (slotCount : ℕ) (sources : QuerySources) : List Piece :=
  sources.components.flatMap componentPieces ++ deltaPieces sources.segmentedDelta ++
    lanePieces slotCount sources.clientLaneSegments

def QuerySources.decoded (sources : QuerySources) : List (Coordinate × ℤ) :=
  sources.components.flatMap PublishedComponent.decode ++
    sources.segmentedDelta.toList.flatMap SegmentedDeltaState.decoded ++
    sources.clientLaneSegments.flatMap PackedCOOSegment.decoded

/-! The plan. -/

private theorem outputShares_ok (component : PublishedComponent) (valid : ComponentValid component)
    (shares : List OutputShare) (block : OutputBlockLayout) (member : block ∈ component.blocks) :
    outputShares component shares block = .ok (if block.chunks = [] then shares
      else shares ++ [blockShare component block]) := by
  rw [outputShares]
  split
  · rfl
  · rename_i nonempty
    obtain ⟨range,_,good⟩ := valid.block block member
    have filled := (blockPiece_sound component valid block member nonempty).valid.nonempty
    rw [good.activeRowMap_eq,Checked.ok_bind,if_neg]
    · rfl
    · intro empty
      refine filled ?_
      show (block.rowMap.take (rowsBeyond block 0)).zipIdx.map _ = []
      rw [empty]
      rfl

private theorem blocks_shares (component : PublishedComponent) (valid : ComponentValid component)
    (blocks : List OutputBlockLayout) (subset : blocks ⊆ component.blocks) (shares : List OutputShare) :
    blocks.foldlM (outputShares component) shares = .ok (shares ++
      ((blocks.filter fun block => block.chunks ≠ []).map (blockPiece component)).map Piece.share) := by
  induction blocks generalizing shares with
  | nil => simp [pure,Except.pure]
  | cons block blocks ih =>
    rw [List.foldlM_cons,outputShares_ok component valid shares block (subset List.mem_cons_self),
      Checked.ok_bind,ih (fun other member => subset (List.mem_cons_of_mem _ member))]
    by_cases empty : block.chunks = []
    · rw [if_pos empty,List.filter_cons_of_neg (by simpa using empty)]
    · rw [if_neg empty,List.filter_cons_of_pos (by simpa using empty),List.append_assoc]
      rfl

theorem components_shares (components : List PublishedComponent)
    (valid : ∀ component ∈ components, ComponentValid component) (shares : List OutputShare) :
    components.foldlM (fun shares component => component.blocks.foldlM (outputShares component) shares) shares =
      .ok (shares ++ (components.flatMap componentPieces).map Piece.share) := by
  induction components generalizing shares with
  | nil => simp [pure,Except.pure]
  | cons component components ih =>
    rw [List.foldlM_cons,blocks_shares component (valid component List.mem_cons_self) _ (List.Subset.refl _),
      Checked.ok_bind,ih (fun other member => valid other (List.mem_cons_of_mem _ member)),List.flatMap_cons,
      List.map_append,List.append_assoc]
    rfl

namespace SourcesAccepted

variable {arguments sources : QuerySources} {reference : PublishedComponent}

theorem mem_reference (accepted : SourcesAccepted arguments sources reference) :
    reference ∈ sources.components := List.mem_of_mem_head? accepted.first

theorem sizes (accepted : SourcesAccepted arguments sources reference) (component : PublishedComponent)
    (member : component ∈ sources.components) :
    component.layoutSpec.rows = reference.layoutSpec.rows ∧
      component.layoutSpec.cols = reference.layoutSpec.cols ∧
      component.layoutSpec.effectiveSlots = reference.layoutSpec.effectiveSlots := by
  simpa [LayoutSpec.dimensions] using accepted.dimensions component member

theorem plan (accepted : SourcesAccepted arguments sources reference) :
    outputPlanFor sources.components = .ok ⟨reference.layoutSpec.rows,reference.layoutSpec.effectiveSlots,
        (sources.components.flatMap componentPieces).map Piece.share⟩ ∧
      extraShares sources = .ok ((deltaPieces sources.segmentedDelta ++
        lanePieces reference.layoutSpec.effectiveSlots sources.clientLaneSegments).map Piece.share) := by
  constructor
  · obtain ⟨others,listed⟩ := List.head?_eq_some_iff.mp accepted.first
    have checks : Checked.eachDistinct PublishedComponent.componentId (fun _ => Except.ok ())
        (⟨.valueError,"component IDs must be unique within an OutputPlan"⟩ : Failure)
        (fun component => do
          Checked.require (component.versionId = reference.versionId)
            ⟨.valueError,"all components must have the same version_id"⟩
          Checked.require (component.layoutSpec.dimensions = reference.layoutSpec.dimensions)
            ⟨.valueError,"all components must have the same matrix and slot dimensions"⟩)
        [] sources.components = .ok () := by
      simp only [Checked.eachDistinct_success,Checked.then_success,Checked.require_success,true_and]
      exact ⟨accepted.component_ids,fun component member =>
        ⟨accepted.version component member,accepted.dimensions component member⟩⟩
    have shares := components_shares sources.components accepted.component_valid []
    rw [listed] at checks shares ⊢
    rw [outputPlanFor,checks,Checked.ok_bind,shares]
    rfl
  · rw [extraShares]
    rcases accepted.exclusive with none | empty
    · rw [none]
      simp [deltaPieces,lanePieces,segmentPiece,Function.comp_def]
    · cases present : sources.segmentedDelta with
      | none => simp [empty,deltaPieces,lanePieces]
      | some delta =>
        have valid := (accepted.delta_accepted delta present).valid
        dsimp only
        rw [valid.shares,empty]
        simp [deltaPieces,lanePieces,pagePiece,Function.comp_def]

theorem slots_of_delta (accepted : SourcesAccepted arguments sources reference) (delta : SegmentedDeltaState)
    (present : sources.segmentedDelta = some delta) : delta.rows = reference.layoutSpec.rows ∧
      delta.cols = reference.layoutSpec.cols ∧
      delta.effectiveSlots = reference.layoutSpec.effectiveSlots := by
  simpa [LayoutSpec.dimensions] using (accepted.delta_accepted delta present).dimensions

theorem sound (accepted : SourcesAccepted arguments sources reference) (piece : Piece)
    (member : piece ∈ sourcePieces reference.layoutSpec.effectiveSlots sources) :
    piece.Sound reference.layoutSpec.rows reference.layoutSpec.cols
      reference.layoutSpec.effectiveSlots := by
  rw [sourcePieces,List.mem_append,List.mem_append] at member
  rcases member with (inComponents | inDelta) | inSegments
  · obtain ⟨component,inSources,there⟩ := List.mem_flatMap.mp inComponents
    obtain ⟨block,inBlocks,rfl⟩ := List.mem_map.mp there
    obtain ⟨inComponent,nonempty⟩ := List.mem_filter.mp inBlocks
    have valid := accepted.component_valid component inSources
    obtain ⟨rows,cols,slots⟩ := accepted.sizes component inSources
    rw [← rows,← cols,← slots]
    exact blockPiece_sound component valid block inComponent (by simpa using nonempty)
  · cases present : sources.segmentedDelta with
    | none => simp [present,deltaPieces] at inDelta
    | some delta =>
      rw [present,deltaPieces] at inDelta
      obtain ⟨page,below,rfl⟩ := List.mem_map.mp inDelta
      obtain ⟨rows,cols,slots⟩ := accepted.slots_of_delta delta present
      rw [← rows,← cols,← slots]
      exact pagePiece_sound delta (accepted.delta_accepted delta present).valid page (List.mem_range.mp below)
  · obtain ⟨segment,inFilter,rfl⟩ := List.mem_map.mp inSegments
    obtain ⟨inSources,active⟩ := List.mem_filter.mp inFilter
    exact segmentPiece_sound segment (accepted.segment_accepted segment inSources) (by simpa using active)

private theorem component_identities (accepted : SourcesAccepted arguments sources reference) :
    (((sources.components.flatMap componentPieces).map Piece.share).map OutputShare.identity).Nodup := by
  rw [List.map_map,List.map_flatMap,List.nodup_flatMap]
  constructor
  · intro component member
    rw [componentPieces,List.map_map]
    have ids := (accepted.component_valid component member).block_ids
    have kept := ids.sublist ((List.filter_sublist (p := fun block => block.chunks ≠ [])).map _)
    refine List.Nodup.of_map (fun identity => (ofLex identity).2) ?_
    rw [List.map_map]
    exact kept
  · refine (List.pairwise_map.mp accepted.component_ids).imp ?_
    intro left right differ identity inLeft inRight
    simp only [componentPieces,List.map_map,List.mem_map] at inLeft inRight
    obtain ⟨_,_,rfl⟩ := inLeft
    obtain ⟨_,_,same⟩ := inRight
    exact differ (Prod.mk.inj (toLex_inj.mp same)).1.symm

private theorem extra_identities (accepted : SourcesAccepted arguments sources reference) (slotCount : ℕ) :
    (((deltaPieces sources.segmentedDelta ++ lanePieces slotCount sources.clientLaneSegments).map
      Piece.share).map OutputShare.identity).Nodup := by
  have pages : ∀ delta : SegmentedDeltaState, (((deltaPieces (some delta)).map Piece.share).map
      OutputShare.identity).Nodup := by
    intro delta
    rw [deltaPieces,List.map_map,List.map_map]
    refine List.nodup_range.map fun left right same => strongPageId_injective ?_
    exact (Prod.mk.inj (toLex_inj.mp same)).2
  have lanes : (((lanePieces slotCount sources.clientLaneSegments).map Piece.share).map
      OutputShare.identity).Nodup := by
    have kept := accepted.segment_ids.sublist
      ((List.filter_sublist (p := fun segment => segment.active ≠ [])).map _)
    refine List.Nodup.of_map (fun identity => (ofLex identity).2) ?_
    rw [lanePieces,List.map_map,List.map_map,List.map_map]
    exact kept
  rcases accepted.exclusive with none | empty
  · rw [none,deltaPieces,List.nil_append]
    exact lanes
  · rw [empty,show lanePieces slotCount [] = [] from rfl,List.append_nil]
    cases sources.segmentedDelta with
    | none => exact List.nodup_nil
    | some delta => exact pages delta

theorem identities (accepted : SourcesAccepted arguments sources reference) (slotCount : ℕ) :
    (((sourcePieces slotCount sources).map Piece.share).map OutputShare.identity).Nodup := by
  rw [sourcePieces,List.append_assoc,List.map_append,List.map_append,List.nodup_append]
  refine ⟨accepted.component_identities,accepted.extra_identities slotCount,?_⟩
  intro left inLeft right inRight same
  simp only [List.map_map,List.mem_map,List.mem_flatMap,componentPieces] at inLeft
  obtain ⟨_,⟨component,member,_,_,rfl⟩,rfl⟩ := inLeft
  rw [List.map_map,List.map_append,List.mem_append] at inRight
  rcases inRight with inDelta | inLanes
  · cases present : sources.segmentedDelta with
    | none => simp [present,deltaPieces] at inDelta
    | some delta =>
      simp only [present,deltaPieces,List.mem_map] at inDelta
      obtain ⟨_,⟨page,_,rfl⟩,named⟩ := inDelta
      exact (accepted.delta_accepted delta present).apart component member
        (Prod.mk.inj (toLex_inj.mp (same.trans named.symm))).1
  · simp only [lanePieces,List.mem_map] at inLanes
    obtain ⟨_,⟨segment,inFilter,rfl⟩,named⟩ := inLanes
    exact accepted.segment_apart (List.ne_nil_of_mem (List.mem_of_mem_filter inFilter)) component member
      (Prod.mk.inj (toLex_inj.mp (same.trans named.symm))).1

theorem plan_valid (accepted : SourcesAccepted arguments sources reference) :
    OutputPlan.Valid ⟨reference.layoutSpec.rows,reference.layoutSpec.effectiveSlots,
      (sourcePieces reference.layoutSpec.effectiveSlots sources).map Piece.share⟩ := by
  have valid := accepted.component_valid reference accepted.mem_reference
  have each : ∀ share ∈ (sourcePieces reference.layoutSpec.effectiveSlots sources).map Piece.share,
      ShareValid reference.layoutSpec.rows reference.layoutSpec.effectiveSlots share := by
    intro share member
    obtain ⟨piece,inPieces,rfl⟩ := List.mem_map.mp member
    exact (accepted.sound piece inPieces).valid
  exact ⟨valid.rows_pos,valid.slots_pos,accepted.identities _,fun share member => (each share member).ids,
    fun share member => (each share member).nonempty,fun share member => (each share member).slots_nodup,
    fun share member => (each share member).slot_lt,fun share member => (each share member).logical_range⟩

end SourcesAccepted

/-- The pieces and the outcomes run in parallel. -/
theorem sourcePieces_outcomes (slotCount : ℕ) (sources : QuerySources) :
    (sourcePieces slotCount sources).map Piece.outcome = sourceOutcomes slotCount sources
      (sources.segmentedDelta.toList.flatMap fun delta => (List.range delta.pageCount).map delta.page) := by
  rw [sourcePieces,sourceOutcomes,List.map_append,List.map_append,List.map_flatMap]
  congr 1
  · congr 1
    · refine List.flatMap_congr fun component _ => ?_
      rw [componentPieces,componentOutcomes,List.map_map]
      rfl
    · cases sources.segmentedDelta with
      | none => rfl
      | some delta => simp [deltaPieces,pagePiece,Function.comp_def]
  · rw [lanePieces,List.map_map]
    rfl

section
variable {R : Type} [CommRing R]

def piecesRowSum (weight : ℤ → R) (row : ℤ) (pieces : List Piece) : R :=
  (pieces.map fun piece => rowSum weight row piece.entries).sum

private theorem componentPieces_rowSum (weight : ℤ → R) (row : ℤ) (component : PublishedComponent) :
    piecesRowSum weight row (componentPieces component) = rowSum weight row component.decode := by
  rw [decode_eq_blocks,rowSum_flatMap,piecesRowSum,componentPieces,List.map_map]
  induction component.blocks with
  | nil => rfl
  | cons block blocks ih =>
    by_cases empty : block.chunks = []
    · rw [List.filter_cons_of_neg (by simpa using empty),ih,List.map_cons,List.sum_cons,
        OutputBlockLayout.entries,empty]
      simp [rowSum]
    · rw [List.filter_cons_of_pos (by simpa using empty),List.map_cons,List.sum_cons,ih,List.map_cons,
        List.sum_cons]
      rfl

private theorem lanePieces_rowSum (weight : ℤ → R) (row : ℤ) (slotCount : ℕ) (segments : List PackedCOOSegment) :
    piecesRowSum weight row (lanePieces slotCount segments) =
      rowSum weight row (segments.flatMap PackedCOOSegment.decoded) := by
  rw [rowSum_flatMap,piecesRowSum,lanePieces,List.map_map]
  induction segments with
  | nil => rfl
  | cons segment segments ih =>
    by_cases empty : segment.active = []
    · rw [List.filter_cons_of_neg (by simpa using empty),ih,List.map_cons,List.sum_cons,
        ← segment.active_decoded,empty]
      simp [rowSum]
    · rw [List.filter_cons_of_pos (by simpa using empty),List.map_cons,List.sum_cons,ih,List.map_cons,
        List.sum_cons]
      rfl

/-- The pieces hold every decoded entry once. -/
theorem sourcePieces_rowSum {arguments sources : QuerySources} {reference : PublishedComponent}
    (accepted : SourcesAccepted arguments sources reference) (weight : ℤ → R) (row : ℤ) :
    piecesRowSum weight row (sourcePieces reference.layoutSpec.effectiveSlots sources) =
      rowSum weight row sources.decoded := by
  have components : piecesRowSum weight row (sources.components.flatMap componentPieces) =
      rowSum weight row (sources.components.flatMap PublishedComponent.decode) := by
    rw [rowSum_flatMap,piecesRowSum,List.map_flatMap]
    induction sources.components with
    | nil => rfl
    | cons component components ih =>
      rw [List.flatMap_cons,List.sum_append,ih,List.map_cons,List.sum_cons,← componentPieces_rowSum]
      rfl
  have delta : piecesRowSum weight row (deltaPieces sources.segmentedDelta) =
      rowSum weight row (sources.segmentedDelta.toList.flatMap SegmentedDeltaState.decoded) := by
    cases present : sources.segmentedDelta with
    | none => rfl
    | some delta =>
      rw [Option.toList_some,List.flatMap_singleton]
      exact pages_rowSum delta (accepted.delta_accepted delta present).valid weight row
  rw [QuerySources.decoded,rowSum_append,rowSum_append,← components,← delta,
    ← lanePieces_rowSum weight row reference.layoutSpec.effectiveSlots,sourcePieces,piecesRowSum,
    List.map_append,List.map_append,List.sum_append,List.sum_append]
  rfl

end

private theorem ComponentValid.decode_coordinates {component : PublishedComponent}
    (valid : ComponentValid component) : (component.decode.map Prod.fst).Perm component.coordinates := by
  have scanned : component.decode.map Prod.fst = component.scannedCoordinates.map Prod.fst := by
    rw [PublishedComponent.decode,PublishedComponent.scannedCoordinates,List.map_flatMap,List.map_flatMap]
    refine List.flatMap_congr fun chunk _ => ?_
    rw [List.map_filterMap,List.map_filterMap]
    conv_lhs => rw [← List.zipIdx_map_fst 0 chunk.lanes,List.filterMap_map]
    refine List.filterMap_congr fun place _ => ?_
    by_cases active : place.1.kind = .actual <;> simp [active,Function.comp_def]
  rw [scanned,PublishedComponent.coordinates,valid.placed]
  exact ((Sorting.sortedBy_perm _ _).map _).symm

theorem SourcesAccepted.decoded_nodup {arguments sources : QuerySources} {reference : PublishedComponent}
    (accepted : SourcesAccepted arguments sources reference) : (sources.decoded.map Prod.fst).Nodup := by
  have perm : (sources.decoded.map Prod.fst).Perm (sources.components.flatMap PublishedComponent.coordinates ++
      sources.segmentedDelta.toList.flatMap SegmentedDeltaState.coordinates ++
        sources.clientLaneSegments.flatMap PackedCOOSegment.coordinates) := by
    rw [QuerySources.decoded,List.map_append,List.map_append,List.map_flatMap,List.map_flatMap,List.map_flatMap]
    refine (List.Perm.append ?_ (List.Perm.of_eq ?_)).append (List.Perm.of_eq ?_)
    · exact List.Perm.flatMap_left _ fun component member =>
        (accepted.component_valid component member).decode_coordinates
    · refine List.flatMap_congr fun delta _ => ?_
      rw [SegmentedDeltaState.decoded,List.map_map]
      rfl
    · refine List.flatMap_congr fun segment _ => ?_
      rw [PackedCOOSegment.decoded,List.map_map]
      rfl
  exact perm.nodup_iff.mpr accepted.coordinates

end DynamicCssc
