import DynamicCssc.QueryDelivery

/-! `compile_query` on accepted sources: that it returns, and what it returns. -/
namespace DynamicCssc
open Foundation CloudProgram

def CompiledQuery.needsMask (compiled : CompiledQuery) : ShareIdentity → Bool := fun shareId =>
  compiled.sources.f1mPolicy = .uniformRandomOrZero ∨ shareId ∈ compiled.outputPlan.maskedOutputShareIds

/-- The intermediate results of a compilation. -/
structure Compilation (sha : Sha256) (arguments : QuerySources) (compiled : CompiledQuery)
    (reference : PublishedComponent) (emission : Emission) : Prop where
  accepted : SourcesAccepted arguments compiled.sources reference
  valid : validatedSources arguments = .ok compiled.sources
  plan : compiled.outputPlan = ⟨reference.layoutSpec.rows,reference.layoutSpec.effectiveSlots,
    (sourcePieces reference.layoutSpec.effectiveSlots compiled.sources).map Piece.share⟩
  analysis : compiled.outputPlan.analyzeOutputPlan sha = .ok compiled.outputAnalysis
  emitted : emitSources reference.layoutSpec.effectiveSlots compiled.needsMask compiled.sources = .ok emission
  program : compiled.cloudPlan.program = emission.program reference.layoutSpec.effectiveSlots
  digest : compiled.cloudPlan.program.digest sha = .ok compiled.cloudProgramDigest
  binding : compiled.cloudPlan.binding = ⟨executionBindingFormat,reference.versionId,
    compiled.outputPlanDigest,compiled.cloudProgramDigest⟩
  counts : analyzeCloudPlan sha compiled.cloudPlan = .ok compiled.cloudCounts
  bindingDigest : executionBindingDigest sha compiled.cloudPlan.binding = .ok compiled.executionBindingDigest
  planDigest : compiled.outputPlanDigest = compiled.outputAnalysis.outputPlanDigest
  specs : compiled.operandSpecs = emission.operandSpecs
  routes : compiled.resultRoutes = emission.routes
  parts : validateCompiledParts sha compiled = .ok ()

/-- What a compilation that returned went through. -/
theorem compileQuery_compilation (sha : Sha256) (arguments : QuerySources) (compiled : CompiledQuery)
    (run : compileQuery sha arguments = .ok compiled) :
    ∃ reference emission, Compilation sha arguments compiled reference emission := by
  rw [compileQuery,Checked.bind_success] at run
  obtain ⟨sources,valid,run⟩ := run
  obtain ⟨reference,accepted⟩ := validatedSources_read arguments sources valid
  obtain ⟨others,listed⟩ := List.head?_eq_some_iff.mp accepted.first
  obtain ⟨plan,extra⟩ := accepted.plan
  simp only [listed] at run
  rw [← listed,plan,Checked.ok_bind,extra,Checked.ok_bind] at run
  simp only [← List.map_append,← List.append_assoc] at run
  simp only [Checked.bind_success,pure,Except.pure,Except.ok.injEq] at run
  obtain ⟨analysis,analyzed,emission,emitted,digest,digested,counts,counted,bindingDigest,bound,_,parts,rfl⟩ := run
  exact ⟨reference,emission,accepted,valid,rfl,analyzed,emitted,rfl,digested,rfl,counted,bound,rfl,rfl,rfl,
    parts⟩

theorem outcome_shares {rows cols slotCount : ℕ} {pieces : List Piece} {outcomes : List Outcome}
    (sound : ∀ piece ∈ pieces, piece.Sound rows cols slotCount)
    (shapes : outcomes.map Outcome.erase = pieces.map Piece.outcome) :
    outcomes.map Outcome.share = (pieces.map Piece.share).map OutputShare.identity := by
  have erased : outcomes.map Outcome.share = (outcomes.map Outcome.erase).map Outcome.share := by
    rw [List.map_map]
    rfl
  rw [erased,shapes,List.map_map,List.map_map]
  exact List.map_congr_left fun piece member => (sound piece member).identity

theorem route_shares (needsMask : ShareIdentity → Bool) (outcomes : List Outcome) :
    (outcomes.zipIdx.map (Outcome.route needsMask)).map ResultRoute.outputShareId =
      outcomes.map Outcome.share := by
  rw [List.map_map]
  conv_rhs => rw [← List.zipIdx_map_fst 0 outcomes,List.map_map]
  rfl

section Parts
variable {sha : Sha256} {compiled : CompiledQuery} {rows cols slotCount : ℕ} {pieces : List Piece}
  {outcomes : List Outcome} {emission : Emission}

/-- `_validate_compiled_parts` accepts what the loops of the compiler built. -/
private theorem validateCompiledParts_ok (sound : ∀ piece ∈ pieces, piece.Sound rows cols slotCount)
    (plan : compiled.outputPlan = ⟨rows,slotCount,pieces.map Piece.share⟩) (valid : compiled.outputPlan.Valid)
    (shapes : outcomes.map Outcome.erase = pieces.map Piece.outcome)
    (standing : Standing ℤ slotCount compiled.needsMask outcomes emission)
    (program : compiled.cloudPlan.program = emission.program slotCount)
    (routes : compiled.resultRoutes = emission.routes) (digest : String)
    (digested : compiled.cloudPlan.program.digest sha = .ok digest)
    (bound : compiled.cloudPlan.binding.cloudProgramDigest = digest)
    (binding : validateExecutionBinding compiled.cloudPlan.binding = .ok ()) :
    validateCompiledParts sha compiled = .ok () := by
  have working := standing.working
  have shares : compiled.resultRoutes.map ResultRoute.outputShareId =
      compiled.outputPlan.shares.map OutputShare.identity := by
    rw [routes,standing.progress.routes,route_shares,outcome_shares sound shapes,plan]
  have results : compiled.resultRoutes.map ResultRoute.resultId = compiled.cloudPlan.program.resultIds := by
    rw [routes,working.routes,program]
    rfl
  have distinct : (compiled.resultRoutes.map ResultRoute.resultId).Nodup := routes ▸ working.result_ids_nodup
  have masked : ∀ route ∈ compiled.resultRoutes,
      route.f1mCiphertextId.isSome = compiled.needsMask route.outputShareId :=
    fun route member => (working.routed route (routes ▸ member)).1
  -- what the policy requires of a result is what its route says
  have required : ∀ route ∈ compiled.resultRoutes, (route.resultId ∈
      if compiled.sources.f1mPolicy = .uniformRandomOrZero then compiled.cloudPlan.program.resultIds
      else compiled.outputPlan.requiredOverlapMaskResultIds compiled.resultRoutes) ↔
        compiled.needsMask route.outputShareId = true := by
    intro route member
    split
    · rename_i uniform
      rw [← results]
      simp [CompiledQuery.needsMask,uniform,List.mem_map_of_mem member]
    · rename_i overlap
      rw [OutputPlan.mem_requiredOverlapMaskResultIds,CompiledQuery.needsMask]
      simp only [overlap,false_or,decide_eq_true_eq,OutputPlan.mem_maskedOutputShareIds]
      constructor
      · intro ⟨other,inRoutes,same,overlaps⟩
        exact List.inj_on_of_nodup_map distinct inRoutes member same ▸ overlaps
      · intro overlaps
        exact ⟨route,member,rfl,overlaps⟩
  have onlyResults : ∀ id ∈ (if compiled.sources.f1mPolicy = .uniformRandomOrZero then
      compiled.cloudPlan.program.resultIds
      else compiled.outputPlan.requiredOverlapMaskResultIds compiled.resultRoutes),
      ∃ route ∈ compiled.resultRoutes, route.resultId = id := by
    intro id member
    split at member
    · rw [← results] at member
      exact List.mem_map.mp member
    · obtain ⟨route,inRoutes,same,_⟩ := (OutputPlan.mem_requiredOverlapMaskResultIds _ _ _).mp member
      exact ⟨route,inRoutes,same⟩
  have accepts : validateCloudExecutionPlan sha compiled.cloudPlan
      (if compiled.sources.f1mPolicy = .uniformRandomOrZero then none else
        some (if compiled.sources.f1mPolicy = .uniformRandomOrZero then compiled.cloudPlan.program.resultIds
          else compiled.outputPlan.requiredOverlapMaskResultIds compiled.resultRoutes)) = .ok () := by
    have positive : 0 < slotCount := by
      have slots := valid.slots_pos
      rw [plan] at slots
      exact slots
    rw [validateCloudExecutionPlan]
    refine Checked.pass _ _ _ ?_ (Checked.pass _ _ _ binding ?_)
    · rw [program]
      refine validate_ok _ _ (working.program_wellFormed positive) _ (working.agrees _ ?_) ?_
      · intro route member
        rw [← routes] at member
        have same := required route member
        split at same
        · rename_i uniform
          rw [if_pos uniform]
          simp [requiresMask,CompiledQuery.needsMask,uniform]
        · rename_i overlap
          rw [if_neg overlap,if_neg overlap]
          simp only [requiresMask,Option.all_some]
          cases needs : compiled.needsMask route.outputShareId <;> simp_all
      · intro ids same id member
        split at same
        · cases same
        · cases same
          obtain ⟨route,inRoutes,rfl⟩ := onlyResults id (by rw [if_neg ‹_›]; exact member)
          rw [← program,← results]
          exact List.mem_map_of_mem inRoutes
    · rw [digested,Checked.ok_bind]
      exact Checked.require_true _ _ bound
  rw [validateCompiledParts]
  refine Checked.pass _ _ _ (Checked.require_true _ _ ⟨?_,?_,results⟩)
    (Checked.pass _ _ _ (Checked.require_true _ _ ⟨?_,?_⟩) ?_)
  · rw [shares,List.dedup_eq_self.mpr valid.identities,← shares,List.length_map]
  · rw [shares]
    exact ⟨fun _ member => member,fun _ member => member⟩
  · intro id member
    obtain ⟨route,inFilter,rfl⟩ := List.mem_map.mp member
    obtain ⟨inRoutes,some⟩ := List.mem_filter.mp inFilter
    simpa using (required route inRoutes).mpr ((masked route inRoutes).symm.trans some)
  · intro id member
    obtain ⟨route,inRoutes,rfl⟩ := onlyResults id (by simpa using member)
    refine List.mem_map_of_mem (List.mem_filter.mpr ⟨inRoutes,?_⟩)
    rw [masked route inRoutes]
    exact (required route inRoutes).mp (by simpa using member)
  · simp only [decide_eq_true_eq]
    rw [accepts]

end Parts

theorem compileQuery_ok (sha : Sha256) (arguments sources : QuerySources)
    (passed : validatedSources arguments = .ok sources) :
    ∃ compiled, compileQuery sha arguments = .ok compiled := by
  obtain ⟨reference,accepted⟩ := validatedSources_read arguments sources passed
  obtain ⟨others,listed⟩ := List.head?_eq_some_iff.mp accepted.first
  obtain ⟨plan,extra⟩ := accepted.plan
  have valid := accepted.plan_valid
  obtain ⟨analysis,analyzed⟩ := OutputPlan.analyze_of_valid sha _ valid
  obtain ⟨emission,outcomes,emitted,shapes,standing⟩ := emitSources_standing ℤ accepted (fun shareId =>
    sources.f1mPolicy = .uniformRandomOrZero ∨ shareId ∈ OutputPlan.maskedOutputShareIds
      ⟨reference.layoutSpec.rows,reference.layoutSpec.effectiveSlots,
        (sourcePieces reference.layoutSpec.effectiveSlots sources).map Piece.share⟩)
  obtain ⟨accepts,digest,digested,hex⟩ := standing.working.digest_ok valid.slots_pos sha
  have component := accepted.component_valid reference accepted.mem_reference
  have planHex : validSha256 analysis.outputPlanDigest = true := by
    rw [OutputPlan.analyzeOutputPlan,Checked.bind_success] at analyzed
    obtain ⟨_,_,built⟩ := analyzed
    cases built
    exact sha.shape _
  have binding : validateExecutionBinding ⟨executionBindingFormat,reference.versionId,
      analysis.outputPlanDigest,digest⟩ = .ok () := by
    simp only [validateExecutionBinding,Checked.then_success,Checked.require_success,requireId_success]
    exact ⟨trivial,component.version,planHex,hex⟩
  have counted : ∃ counts, analyzeCloudPlan sha ⟨emission.program reference.layoutSpec.effectiveSlots,
      ⟨executionBindingFormat,reference.versionId,analysis.outputPlanDigest,digest⟩⟩ = .ok counts := by
    have whole : validateCloudExecutionPlan sha ⟨emission.program reference.layoutSpec.effectiveSlots,
        ⟨executionBindingFormat,reference.versionId,analysis.outputPlanDigest,digest⟩⟩
        (some (emission.program reference.layoutSpec.effectiveSlots).maskedReturnResultIds) = .ok () := by
      rw [validateCloudExecutionPlan]
      refine Checked.pass _ _ _ accepts (Checked.pass _ _ _ binding ?_)
      rw [digested,Checked.ok_bind]
      exact Checked.require_true _ _ rfl
    rw [analyzeCloudPlan,whole,Checked.ok_bind]
    exact ⟨_,rfl⟩
  obtain ⟨counts,counted⟩ := counted
  let compiled : CompiledQuery := {
    sources := sources
    cloudPlan := ⟨emission.program reference.layoutSpec.effectiveSlots,
      ⟨executionBindingFormat,reference.versionId,analysis.outputPlanDigest,digest⟩⟩
    outputPlan := ⟨reference.layoutSpec.rows,reference.layoutSpec.effectiveSlots,
      (sourcePieces reference.layoutSpec.effectiveSlots sources).map Piece.share⟩
    operandSpecs := emission.operandSpecs
    resultRoutes := emission.routes
    cloudProgramDigest := digest
    outputPlanDigest := analysis.outputPlanDigest
    executionBindingDigest := sha.hexdigest (Json.dumps true (Json.object [
      ("cloud_program_digest",.str digest),("format",.str executionBindingFormat),
      ("output_plan_digest",.str analysis.outputPlanDigest),("version_id",.str reference.versionId)]))
    cloudCounts := counts
    outputAnalysis := analysis }
  have parts : validateCompiledParts sha compiled = .ok () :=
    validateCompiledParts_ok accepted.sound rfl valid shapes standing rfl rfl digest digested rfl binding
  refine ⟨compiled,?_⟩
  rw [compileQuery,passed,Checked.ok_bind]
  simp only [listed]
  rw [← listed,plan,Checked.ok_bind,extra,Checked.ok_bind]
  simp only [← List.map_append,← List.append_assoc]
  refine (Checked.bind_success _ _ _).mpr ⟨analysis,analyzed,?_⟩
  refine (Checked.bind_success _ _ _).mpr ⟨emission,emitted,?_⟩
  refine (Checked.bind_success _ _ _).mpr ⟨digest,digested,?_⟩
  refine (Checked.bind_success _ _ _).mpr ⟨counts,counted,?_⟩
  refine (Checked.bind_success _ _ _).mpr ⟨_,?_,Checked.pass _ _ _ parts rfl⟩
  rw [executionBindingDigest,binding]
  rfl

end DynamicCssc
