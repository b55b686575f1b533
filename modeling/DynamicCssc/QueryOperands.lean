import DynamicCssc.OracleLanes

/-! A compiled query run by the oracle: the vectors it is given, and what it returns for each piece. -/
namespace DynamicCssc
open Foundation CloudProgram PlaintextOracle

/-- The dense vector at the columns of an operand, zero where a lane has none. -/
def gather (dense columns : List ℤ) : List ℤ :=
  columns.map fun column => if 0 ≤ column then dense.getD column.toNat 0 else 0

def denseWeight (modulus : ℕ) (dense : List ℤ) (column : ℤ) : ZMod modulus :=
  ((if 0 ≤ column then dense.getD column.toNat 0 else 0 : ℤ) : ZMod modulus)

/-- The vectors that a compiled query runs on: the stored lanes, the gathered queries, a mask for each
masked route. -/
structure Operands (compiled : CompiledQuery) (dense : List ℤ) (masks : ShareIdentity → List ℤ)
    (inputs : Vectors) : Prop where
  values : ∀ spec ∈ compiled.operandSpecs, inputs.lookup spec.valueCiphertextId = some spec.values
  queries : ∀ spec ∈ compiled.operandSpecs,
    inputs.lookup spec.queryCiphertextId = some (gather dense spec.globalColumnIndices)
  f1m : ∀ route ∈ compiled.resultRoutes, ∀ id, route.f1mCiphertextId = some id →
    inputs.lookup id = some (masks route.outputShareId)
  only : ∀ id ∈ inputs.map Prod.fst,
    (∃ spec ∈ compiled.operandSpecs, id = spec.valueCiphertextId ∨ id = spec.queryCiphertextId) ∨
      ∃ route ∈ compiled.resultRoutes, route.f1mCiphertextId = some id

/-- A mask for each masked route: zero off the overlaps, and cancelling on them. -/
structure MaskFamily (compiled : CompiledQuery) (modulus : ℕ) (masks : ShareIdentity → List ℤ) : Prop where
  lengths : ∀ route ∈ compiled.resultRoutes, route.f1mCiphertextId.isSome →
    (masks route.outputShareId).length = compiled.outputPlan.slotCount
  confined : ∀ route ∈ compiled.resultRoutes, route.f1mCiphertextId.isSome → ∀ lane,
    (∀ logical, (route.outputShareId,lane) ∈ compiled.outputPlan.contributors logical →
      compiled.outputPlan.multiplicity logical ≤ 1) → (masks route.outputShareId).getD lane 0 = 0
  cancels : ∀ logical, 1 < compiled.outputPlan.multiplicity logical →
    ((compiled.outputPlan.contributors logical).map fun place => (masks place.1).getD place.2 0).sum %
      (modulus : ℤ) = 0

/-- `{route.output_share_id: returned[route.result_id] for route in routes}`. -/
def routeShares (routes : List ResultRoute) (returned : Vectors) :
    Checked (List (ShareIdentity × List ℤ)) :=
  routes.foldlM (fun table route => do
    let values ← read returned route.resultId
    return Dict.set route.outputShareId values table) []

section
variable {sha : Sha256} {arguments : QuerySources} {compiled : CompiledQuery}
  {reference : PublishedComponent} {emission : Emission} {outcomes : List Outcome}

structure Delivery (R : Type) [CommRing R] (sha : Sha256) (arguments : QuerySources)
    (compiled : CompiledQuery) (reference : PublishedComponent) (emission : Emission)
    (outcomes : List Outcome) : Prop where
  compilation : Compilation sha arguments compiled reference emission
  shapes : outcomes.map Outcome.erase =
    (sourcePieces reference.layoutSpec.effectiveSlots compiled.sources).map Piece.outcome
  standing : Standing R reference.layoutSpec.effectiveSlots compiled.needsMask outcomes emission

theorem Compilation.delivery (R : Type) [CommRing R]
    (compilation : Compilation sha arguments compiled reference emission) :
    ∃ outcomes, Delivery R sha arguments compiled reference emission outcomes := by
  obtain ⟨other,outcomes,emitted,shapes,standing⟩ := emitSources_standing R compilation.accepted
    compiled.needsMask
  rw [compilation.emitted] at emitted
  cases emitted
  exact ⟨outcomes,compilation,shapes,standing⟩

namespace Delivery
variable {R : Type} [CommRing R] (delivery : Delivery R sha arguments compiled reference emission outcomes)
include delivery

theorem plan_valid : compiled.outputPlan.Valid :=
  delivery.compilation.plan ▸ delivery.compilation.accepted.plan_valid

theorem slots : compiled.cloudPlan.program.slotCount = reference.layoutSpec.effectiveSlots := by
  rw [delivery.compilation.program]
  rfl

private theorem program_inputs : compiled.cloudPlan.program.ciphertextInputs = emission.ciphertextInputs := by
  rw [delivery.compilation.program]
  rfl

theorem wellFormed : WellFormed compiled.cloudPlan.program emission.rotationShifts := by
  rw [delivery.compilation.program]
  exact delivery.standing.working.program_wellFormed
    (delivery.compilation.accepted.component_valid reference
      delivery.compilation.accepted.mem_reference).slots_pos

theorem routes : compiled.resultRoutes = outcomes.zipIdx.map (Outcome.route compiled.needsMask) := by
  rw [delivery.compilation.routes,delivery.standing.progress.routes]

private theorem spec_of_part (part : Part) (member : part ∈ outcomes.flatMap Outcome.parts) :
    ∃ spec ∈ compiled.operandSpecs, spec.key = part.key := by
  have keys := delivery.standing.progress.specs
  rw [← delivery.compilation.specs] at keys
  have inKeys : part.key ∈ compiled.operandSpecs.map OperandSpec.key := by
    rw [keys]
    exact List.mem_map_of_mem member
  exact List.mem_map.mp inKeys

theorem part_of_spec (spec : OperandSpec) (member : spec ∈ compiled.operandSpecs) :
    ∃ part ∈ outcomes.flatMap Outcome.parts, part.key = spec.key := by
  have keys := delivery.standing.progress.specs
  rw [← delivery.compilation.specs] at keys
  have inKeys : spec.key ∈ (outcomes.flatMap Outcome.parts).map Part.key := by
    rw [← keys]
    exact List.mem_map_of_mem member
  exact List.mem_map.mp inKeys

private theorem piece_at (ordinal : ℕ) (outcome : Outcome) (found : outcomes[ordinal]? = some outcome) :
    ∃ piece, (sourcePieces reference.layoutSpec.effectiveSlots compiled.sources)[ordinal]? = some piece ∧
      piece.outcome = outcome.erase := by
  have same := congrArg (fun items => items[ordinal]?) delivery.shapes
  simp only [List.getElem?_map,found,Option.map_some] at same
  obtain ⟨piece,there,equal⟩ := Option.map_eq_some_iff.mp same.symm
  exact ⟨piece,there,equal⟩

private theorem part_lengths (part : Part) (member : part ∈ outcomes.flatMap Outcome.parts) :
    part.values.length = reference.layoutSpec.effectiveSlots ∧
      part.columns.length = reference.layoutSpec.effectiveSlots ∧
      ∀ column ∈ part.columns, column < reference.layoutSpec.cols := by
  obtain ⟨outcome,inOutcomes,inParts⟩ := List.mem_flatMap.mp member
  obtain ⟨ordinal,found⟩ := List.mem_iff_getElem?.mp inOutcomes
  obtain ⟨piece,there,same⟩ := delivery.piece_at ordinal outcome found
  have sound := delivery.compilation.accepted.sound piece (List.mem_iff_getElem?.mpr ⟨ordinal,there⟩)
  have erased : { part with ordinal := 0 } ∈ piece.outcome.parts := by
    rw [same]
    exact List.mem_map_of_mem inParts
  exact ⟨(sound.lengths _ erased).1,(sound.lengths _ erased).2,sound.columns { part with ordinal := 0 } erased⟩

theorem route_at (ordinal : ℕ) (outcome : Outcome) (found : outcomes[ordinal]? = some outcome) :
    Outcome.route compiled.needsMask (outcome,ordinal) ∈ compiled.resultRoutes := by
  rw [delivery.routes]
  exact List.mem_map_of_mem (List.mk_mem_zipIdx_iff_getElem?.mpr found)

theorem outcome_of_route (route : ResultRoute) (member : route ∈ compiled.resultRoutes) :
    ∃ ordinal outcome, outcomes[ordinal]? = some outcome ∧
      route = Outcome.route compiled.needsMask (outcome,ordinal) := by
  rw [delivery.routes] at member
  obtain ⟨⟨outcome,ordinal⟩,inside,rfl⟩ := List.mem_map.mp member
  exact ⟨ordinal,outcome,List.mk_mem_zipIdx_iff_getElem?.mp inside,rfl⟩

theorem supplied {modulus : ℕ} {dense : List ℤ} {masks : ShareIdentity → List ℤ} {inputs : Vectors}
    (operands : Operands compiled dense masks inputs) (family : MaskFamily compiled modulus masks) :
    Supplied compiled.cloudPlan.program inputs (committedMasks compiled.cloudPlan.program) := by
  have progress := delivery.standing.progress
  have good := delivery.wellFormed
  have keyed (spec : OperandSpec) (part : Part) (same : spec.key = part.key) :
      spec.valueCiphertextId = part.valueId ∧ spec.queryCiphertextId = part.queryId ∧
        spec.values = part.values ∧ spec.globalColumnIndices = part.columns := by
    simpa [OperandSpec.key,Part.key] using same
  have declared : ∀ operand ∈ compiled.cloudPlan.program.ciphertextInputs, ∃ values,
      inputs.lookup operand.ciphertextId = some values ∧ values.length = operand.length := by
    intro operand member
    rw [delivery.program_inputs] at member
    rcases (progress.inputs operand).mp member with ⟨part,inParts,shape⟩ | ⟨ordinal,outcome,found,masked,rfl⟩
    · rw [List.append_nil] at inParts
      obtain ⟨spec,inSpecs,same⟩ := delivery.spec_of_part part inParts
      obtain ⟨valueId,queryId,values,columns⟩ := keyed spec part same
      obtain ⟨long,wide,_⟩ := delivery.part_lengths part inParts
      rcases shape with rfl | rfl
      · exact ⟨_,valueId ▸ operands.values spec inSpecs,by rw [values]; exact long⟩
      · exact ⟨_,queryId ▸ operands.queries spec inSpecs,by rw [gather,List.length_map,columns]; exact wide⟩
    · have inRoutes := delivery.route_at ordinal outcome found
      have id : (Outcome.route compiled.needsMask (outcome,ordinal)).f1mCiphertextId = some (f1mName ordinal) :=
        if_pos masked
      refine ⟨_,operands.f1m _ inRoutes _ id,?_⟩
      rw [family.lengths _ inRoutes (by rw [id]; rfl),delivery.compilation.plan]
  refine ⟨⟨?_,?_⟩,?_,?_,?_⟩
  · intro id member
    rw [delivery.program_inputs]
    rcases operands.only id member with ⟨spec,inSpecs,shape⟩ | ⟨route,inRoutes,some⟩
    · obtain ⟨part,inParts,same⟩ := delivery.part_of_spec spec inSpecs
      obtain ⟨valueId,queryId,_,_⟩ := keyed spec part same.symm
      rcases shape with rfl | rfl
      · exact List.mem_map.mpr ⟨_,(progress.inputs _).mpr (.inl ⟨part,by simpa using inParts,.inl rfl⟩),
          valueId.symm⟩
      · exact List.mem_map.mpr ⟨_,(progress.inputs _).mpr (.inl ⟨part,by simpa using inParts,.inr rfl⟩),
          queryId.symm⟩
    · obtain ⟨ordinal,outcome,found,rfl⟩ := delivery.outcome_of_route route inRoutes
      simp only [Outcome.route,Option.ite_none_right_eq_some,Option.some.injEq] at some
      obtain ⟨masked,rfl⟩ := some
      exact List.mem_map.mpr ⟨_,(progress.inputs _).mpr (.inr ⟨ordinal,outcome,found,masked,rfl⟩),rfl⟩
  · intro id member
    obtain ⟨operand,inside,rfl⟩ := List.mem_map.mp member
    obtain ⟨values,found,_⟩ := declared operand inside
    exact List.mem_map.mpr ⟨_,Dict.mem_of_lookup found,rfl⟩
  · intro operand member values found
    obtain ⟨other,held,long⟩ := declared operand member
    rw [held] at found
    exact Option.some.inj found ▸ long
  · have keys : (committedMasks compiled.cloudPlan.program).map Prod.fst =
        compiled.cloudPlan.program.plaintextMasks.map PlaintextMask.maskId := by
      simp [committedMasks,Function.comp_def]
    rw [SameIds,keys]
    exact ⟨fun _ member => member,fun _ member => member⟩
  · intro mask member values found
    have distinct : ((committedMasks compiled.cloudPlan.program).map Prod.fst).Nodup := by
      have ids := (List.nodup_append.mp (List.nodup_append.mp good.ids_nodup).1).2.1
      simpa [committedMasks,Function.comp_def] using ids
    rw [(Dict.lookup_eq_some_iff _ distinct mask.maskId mask.values).mpr
      (List.mem_map.mpr ⟨mask,member,rfl⟩)] at found
    exact (Option.some.inj found).symm

private theorem program_accepted : ∃ required, compiled.cloudPlan.program.Accepted required := by
  have counted := delivery.compilation.counts
  rw [analyzeCloudPlan,Checked.then_success,validateCloudExecutionPlan,Checked.then_success] at counted
  exact ⟨_,validate_read _ _ counted.1.1⟩

private theorem rotations_inside : ∀ entry ∈ compiled.cloudPlan.program.rotationCatalog,
    entry.2.natAbs < compiled.cloudPlan.program.slotCount := by
  intro entry member
  rw [delivery.wellFormed.catalog] at member
  obtain ⟨shift,inShifts,rfl⟩ := List.mem_map.mp member
  rw [Sorting.mem_sortedSet] at inShifts
  have bound := (delivery.standing.working.drafted.shifts shift inShifts).2
  rw [delivery.slots]
  simpa using bound

end Delivery

/-- The parts of an outcome contribute the weighted values of their columns. -/
private theorem Part.lane_weighted {modulus : ℕ} (dense : List ℤ) (lanes : Lanes (ZMod modulus)) (part : Part)
    (values : ∀ lane, lanes part.valueId lane = (((part.values[lane]?).getD 0 : ℤ) : ZMod modulus))
    (queries : ∀ lane, lanes part.queryId lane =
      ((((gather dense part.columns)[lane]?).getD 0 : ℤ) : ZMod modulus)) (lane : ℕ) :
    part.lane lanes lane = part.weighted (denseWeight modulus dense) lane := by
  have products : part.products lanes = part.product (denseWeight modulus dense) := by
    funext slot
    rw [Part.products,Part.product,values,queries,gather,List.getElem?_map,denseWeight]
    cases part.columns[slot]? <;> simp
  rw [Part.lane,Part.weighted,products]

def maskLane (modulus : ℕ) (needsMask : ShareIdentity → Bool) (masks : ShareIdentity → List ℤ)
    (shareId : ShareIdentity) (lane : ℕ) : ZMod modulus :=
  if needsMask shareId then (((masks shareId).getD lane 0 : ℤ) : ZMod modulus) else 0

/-- A compiled query runs, and every result holds its outcome and its mask. -/
theorem Delivery.returns {modulus : ℕ} {dense : List ℤ} {masks : ShareIdentity → List ℤ} {inputs : Vectors}
    (delivery : Delivery (ZMod modulus) sha arguments compiled reference emission outcomes)
    (operands : Operands compiled dense masks inputs) (family : MaskFamily compiled modulus masks) :
    ∃ results, executeValidatedCloudPlan compiled.cloudPlan inputs
        (committedMasks compiled.cloudPlan.program) modulus = .ok results ∧
      ∀ ordinal outcome, outcomes[ordinal]? = some outcome → ∃ values,
        results.lookup (resultName ordinal) = some values ∧
        values.length = reference.layoutSpec.effectiveSlots ∧
        ∀ lane < reference.layoutSpec.effectiveSlots, (((values[lane]?).getD 0 : ℤ) : ZMod modulus) =
          outcome.weighted (denseWeight modulus dense) lane +
            maskLane modulus compiled.needsMask masks outcome.share lane := by
  obtain ⟨required,accepted⟩ := delivery.program_accepted
  obtain ⟨state,runs,even,given,solved⟩ := @execute_ok compiled.cloudPlan required inputs _ modulus accepted
    delivery.rotations_inside (delivery.supplied operands family)
  have solves := @lanes_solve modulus _ required state.ciphertexts accepted even solved
  rw [delivery.slots,delivery.compilation.program] at solves
  have progress := delivery.standing.progress
  -- what an operand was given is what its lanes hold
  have held : ∀ operand ∈ compiled.cloudPlan.program.ciphertextInputs, ∀ values,
      inputs.lookup operand.ciphertextId = some values → ∀ lane,
        lanesOf modulus state.ciphertexts operand.ciphertextId lane =
          (((values[lane]?).getD 0 : ℤ) : ZMod modulus) := by
    intro operand member values found lane
    have there := (given operand member).trans (lookup_loaded accepted operand member)
    rw [lanesOf_held there,found,Option.getD_some,reduced_lane]
  have parts : ∀ part ∈ outcomes.flatMap Outcome.parts, ∀ lane,
      part.lane (lanesOf modulus state.ciphertexts) lane = part.weighted (denseWeight modulus dense) lane := by
    intro part inParts lane
    obtain ⟨spec,inSpecs,same⟩ := delivery.spec_of_part part inParts
    have keyed : spec.valueCiphertextId = part.valueId ∧ spec.queryCiphertextId = part.queryId ∧
        spec.values = part.values ∧ spec.globalColumnIndices = part.columns := by
      simpa [OperandSpec.key,Part.key] using same
    obtain ⟨valueId,queryId,values,columns⟩ := keyed
    have declared (operand : CiphertextInput) (shape : operand = ⟨part.valueId,.value,
        reference.layoutSpec.effectiveSlots⟩ ∨ operand = ⟨part.queryId,.query,
        reference.layoutSpec.effectiveSlots⟩) : operand ∈ compiled.cloudPlan.program.ciphertextInputs := by
      rw [delivery.program_inputs]
      exact (progress.inputs operand).mpr (.inl ⟨part,by simpa using inParts,shape⟩)
    refine Part.lane_weighted dense _ part ?_ ?_ lane
    · exact held _ (declared _ (.inl rfl)) part.values (by
        rw [← valueId,← values]
        exact operands.values spec inSpecs)
    · exact held _ (declared _ (.inr rfl)) (gather dense part.columns) (by
        rw [← queryId,← columns]
        exact operands.queries spec inSpecs)
  refine ⟨_,runs,?_⟩
  intro ordinal outcome found
  obtain ⟨source,returned,means⟩ := progress.delivers ordinal outcome found
  have inProgram : CloudNode.returnResult (resultName ordinal) source ∈ compiled.cloudPlan.program.nodes := by
    rw [delivery.compilation.program]
    exact returned
  obtain ⟨values,there⟩ := Option.isSome_iff_exists.mp (solved _ inProgram).1
  have kept : state.ciphertexts.lookup source = some values := there
  have long := even source values kept
  rw [delivery.slots] at long
  refine ⟨values,?_,long,?_⟩
  · have distinct : (((returnNodes compiled.cloudPlan.program.nodes).map fun entry =>
        (entry.1,(state.ciphertexts.lookup entry.2).getD [])).map Prod.fst).Nodup := by
      have ids := delivery.standing.working.result_ids_nodup
      rw [delivery.standing.working.routes,delivery.standing.working.results] at ids
      rw [delivery.compilation.program,List.map_map]
      exact ids
    refine (Dict.lookup_eq_some_iff _ distinct _ _).mpr (List.mem_map.mpr
      ⟨(resultName ordinal,source),(mem_returnNodes _ _ _).mpr inProgram,?_⟩)
    rw [kept]
    rfl
  · intro lane inside
    have rows := (means _ solves).1 lane inside
    rw [lanesOf_held kept] at rows
    rw [rows,Outcome.weighted]
    congr 1
    · congr 1
      exact List.map_congr_left fun part member =>
        parts part (List.mem_flatMap.mpr ⟨outcome,List.mem_of_getElem? found,member⟩) lane
    · rw [maskLane]
      split
      · rename_i masked
        have inRoutes := delivery.route_at ordinal outcome found
        have id : (Outcome.route compiled.needsMask (outcome,ordinal)).f1mCiphertextId =
            some (f1mName ordinal) := if_pos masked
        have declared : (⟨f1mName ordinal,.f1mMask,reference.layoutSpec.effectiveSlots⟩ : CiphertextInput) ∈
            compiled.cloudPlan.program.ciphertextInputs := by
          rw [delivery.program_inputs]
          exact (progress.inputs _).mpr (.inr ⟨ordinal,outcome,found,masked,rfl⟩)
        rw [held _ declared _ (operands.f1m _ inRoutes _ id) lane,List.getD_eq_getElem?_getD]
        rfl
      · rfl

end
end DynamicCssc
