import DynamicCssc.PlanPieces

/-! The query compiler raises nothing on accepted sources, and what it returns delivers their
pieces. -/
namespace DynamicCssc
open Foundation CloudProgram

section
variable {R : Type} [CommRing R] {arguments sources : QuerySources} {reference : PublishedComponent}

theorem Standing.start (slotCount : ℕ) (needsMask : ShareIdentity → Bool) :
    Standing R slotCount needsMask [] Emission.empty :=
  ⟨Working.start,Progress.start⟩

theorem emitSources_standing (R : Type) [CommRing R] (accepted : SourcesAccepted arguments sources reference)
    (needsMask : ShareIdentity → Bool) : ∃ emission outcomes,
      emitSources reference.layoutSpec.effectiveSlots needsMask sources = .ok emission ∧
      outcomes.map Outcome.erase =
        (sourcePieces reference.layoutSpec.effectiveSlots sources).map Piece.outcome ∧
      Standing R reference.layoutSpec.effectiveSlots needsMask outcomes emission := by
  have fits : ∀ component ∈ sources.components, ∀ chunk ∈ component.chunks,
      ChunkFits reference.layoutSpec.effectiveSlots chunk := by
    intro component member chunk inside
    obtain ⟨block,inBlocks,inBlock⟩ := List.mem_flatMap.mp inside
    obtain ⟨range,_,good⟩ := (accepted.component_valid component member).block block inBlocks
    obtain ⟨wide,tall,area⟩ := (good.chunks chunk inBlock).chunk_fits
    rw [(accepted.sizes component member).2.2] at area
    exact ⟨wide,tall,area⟩
  obtain ⟨first,shapes,standing⟩ := compileComponents_standing sources.components fits [] Emission.empty
    (Standing.start (R := R) reference.layoutSpec.effectiveSlots needsMask)
  rw [sourcePieces_outcomes]
  cases present : sources.segmentedDelta with
  | none =>
    obtain ⟨lanes,laneShapes,final⟩ := compileSegments_standing sources.clientLaneSegments.zipIdx _ _ standing
    refine ⟨_,[] ++ first ++ lanes,?_,?_,final⟩
    · rw [emitSources,present]
      rfl
    · rw [List.nil_append,List.map_append,shapes,laneShapes,sourceOutcomes,present,List.append_nil,
        List.zipIdx_map_fst]
  | some delta =>
    have held := accepted.delta_accepted delta present
    obtain ⟨pages,pageShapes,paged⟩ := compilePages_standing delta held.valid
      (accepted.slots_of_delta delta present).2.2 ((List.range delta.pageCount).map delta.page) _ _ standing
    obtain ⟨lanes,laneShapes,final⟩ := compileSegments_standing sources.clientLaneSegments.zipIdx _ _ paged
    refine ⟨_,[] ++ first ++ pages ++ lanes,?_,?_,final⟩
    · rw [emitSources,present]
      dsimp only
      rw [held.valid.deltaPages]
      rfl
    · rw [List.nil_append,List.map_append,List.map_append,shapes,pageShapes,laneShapes,sourceOutcomes,present,
        List.zipIdx_map_fst]
      simp only [Option.toList_some,List.flatMap_singleton]

end

namespace Working

variable {slotCount : ℕ} {needsMask : ShareIdentity → Bool} {reductions : ℕ × ℕ} {selections cross : ℕ}
  {emission : Emission}

theorem program_wellFormed (working : Working slotCount needsMask reductions selections cross [] emission)
    (positive : 0 < slotCount) : WellFormed (emission.program slotCount) emission.rotationShifts :=
  working.drafted.wellFormed working.complete positive (emission.program slotCount) rfl rfl rfl rfl rfl
    working.results rfl

/-- The node behind a returned result is masked exactly when its route is. -/
private theorem returned_masked (working : Working slotCount needsMask reductions selections cross [] emission)
    (route : ResultRoute) (member : route ∈ emission.routes) (source : String)
    (returned : CloudNode.returnResult route.resultId source ∈ emission.nodes) (node : CloudNode)
    (inside : node ∈ emission.nodes) (same : node.resultId = source) :
    node.isAddF1M = needsMask route.outputShareId := by
  obtain ⟨_,other,there,found,inNodes,sort,_,named⟩ := working.routed route member
  have equal := working.drafted.node_unique _ _ returned there rfl
  simp only [CloudNode.returnResult.injEq,true_and] at equal
  have unique := working.drafted.node_unique node found inside inNodes
    (same.trans (equal.trans named.symm))
  rw [unique]
  cases masked : needsMask route.outputShareId with
  | true => simpa [masked] using sort
  | false =>
    rw [masked] at sort
    cases found <;> simp_all [isFinal,CloudNode.isAddF1M,CloudNode.isRelinearize,CloudNode.isMultiplyPlain,
      CloudNode.isAdd]

private theorem route_of_return (working : Working slotCount needsMask reductions selections cross [] emission)
    (resultId source : String) (returned : CloudNode.returnResult resultId source ∈ emission.nodes) :
    ∃ route ∈ emission.routes, route.resultId = resultId := by
  have listed : resultId ∈ emission.routes.map ResultRoute.resultId := by
    rw [working.routes,working.results]
    exact List.mem_map.mpr ⟨_,(mem_returnNodes _ _ _).mpr returned,rfl⟩
  exact List.mem_map.mp listed

theorem agrees (working : Working slotCount needsMask reductions selections cross [] emission)
    (required : Option (List String))
    (matched : ∀ route ∈ emission.routes, requiresMask required route.resultId = needsMask route.outputShareId) :
    Agrees emission.nodes required := by
  intro resultId source returned node inside _ same
  obtain ⟨route,member,rfl⟩ := working.route_of_return resultId source returned
  rw [matched route member]
  exact working.returned_masked route member source returned node inside same

theorem result_ids_nodup (working : Working slotCount needsMask reductions selections cross [] emission) :
    (emission.routes.map ResultRoute.resultId).Nodup := by
  rw [working.routes,working.results]
  have ids := working.drafted.nodes_distinct
  refine ids.sublist ?_
  rw [returnNodes,List.map_filterMap]
  show List.Sublist _ (emission.nodes.map CloudNode.resultId)
  induction emission.nodes with
  | nil => exact List.Sublist.refl _
  | cons node nodes ih =>
    cases node with
    | returnResult resultId source => exact ih.cons_cons _
    | _ => exact ih.cons _

private theorem mem_masked (working : Working slotCount needsMask reductions selections cross [] emission)
    (route : ResultRoute) (member : route ∈ emission.routes) :
    route.resultId ∈ (emission.program slotCount).maskedReturnResultIds ↔
      needsMask route.outputShareId = true := by
  obtain ⟨_,source,returned,found,inNodes,_,_,named⟩ := working.routed route member
  have marks := working.returned_masked route member source returned found inNodes named
  simp only [maskedReturnResultIds,List.mem_map,List.mem_filter,decide_eq_true_eq,Prod.exists]
  constructor
  · intro ⟨_,other,⟨there,node,⟨inside,masks⟩,same⟩,equal⟩
    subst equal
    rw [← working.returned_masked route member other ((mem_returnNodes _ _ _).mp there) node inside same]
    exact masks
  · intro masked
    exact ⟨_,source,⟨(mem_returnNodes _ _ _).mpr returned,found,⟨inNodes,marks.trans masked⟩,named⟩,rfl⟩

private theorem masked_subset (slotCount : ℕ) (working : Working slotCount needsMask reductions selections cross []
    emission) : ∀ id ∈ (emission.program slotCount).maskedReturnResultIds,
      id ∈ (emission.program slotCount).resultIds := by
  intro id member
  obtain ⟨entry,inFilter,rfl⟩ := List.mem_map.mp member
  show entry.1 ∈ emission.resultIds
  rw [working.results]
  exact List.mem_map_of_mem (List.mem_of_mem_filter inFilter)

theorem digest_ok (working : Working slotCount needsMask reductions selections cross [] emission)
    (positive : 0 < slotCount) (sha : Sha256) :
    (emission.program slotCount).validate (some (emission.program slotCount).maskedReturnResultIds) = .ok () ∧
      ∃ digest, (emission.program slotCount).digest sha = .ok digest ∧ validSha256 digest = true := by
  have accepts : (emission.program slotCount).validate
      (some (emission.program slotCount).maskedReturnResultIds) = .ok () := by
    refine validate_ok _ _ (working.program_wellFormed positive) _ (working.agrees _ ?_) ?_
    · intro route member
      have same := working.mem_masked route member
      simp only [requiresMask,Option.all_some]
      cases needs : needsMask route.outputShareId <;> simp_all
    · intro ids same id member
      cases same
      exact masked_subset slotCount working id member
  refine ⟨accepts,?_⟩
  rw [digest,canonicalPayload,accepts]
  exact ⟨_,rfl,sha.shape _⟩

end Working
end DynamicCssc
