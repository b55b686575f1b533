import DynamicCssc.PreparationValid

/-! A compiled query as its lifecycle reads it. -/
namespace DynamicCssc
open Foundation

/-- The data of a compilation. The sources of a compiled query are not empty. -/
def CompiledQuery.bound (compiled : CompiledQuery) (privatePlanDigest : String) : BoundQuery where
  versionId := compiled.cloudPlan.binding.versionId
  cols := (compiled.sources.components.head?.map fun component => component.layoutSpec.cols).getD 0
  cloudPlan := compiled.cloudPlan
  outputPlan := compiled.outputPlan
  operands := compiled.operandSpecs.map fun spec =>
    ⟨spec.valueCiphertextId,spec.queryCiphertextId,spec.values,spec.globalColumnIndices⟩
  routes := compiled.resultRoutes
  cloudProgramDigest := compiled.cloudProgramDigest
  outputPlanDigest := compiled.outputPlanDigest
  executionBindingDigest := compiled.executionBindingDigest
  privatePlanDigest := privatePlanDigest

private theorem BoundQuery.mem_maskedRoutes (bound : BoundQuery) (route : ResultRoute) (id : String) :
    (route,id) ∈ bound.maskedRoutes ↔ route ∈ bound.routes ∧ route.f1mCiphertextId = some id := by
  simp only [maskedRoutes,List.mem_filterMap,Option.map_eq_some_iff,Prod.mk.injEq]
  constructor
  · intro mapped
    obtain ⟨source,member,other,held,same,text⟩ := mapped
    subst same
    subst text
    exact ⟨member,held⟩
  · intro both
    obtain ⟨member,held⟩ := both
    exact ⟨route,member,id,held,rfl,rfl⟩

section
variable {sha : Sha256} {arguments : QuerySources} {compiled : CompiledQuery}
  {reference : PublishedComponent} {emission : Emission} {outcomes : List Outcome}

private theorem Delivery.route_share (delivery : Delivery ℤ sha arguments compiled reference emission outcomes)
    (route : ResultRoute) (member : route ∈ compiled.resultRoutes) :
    ∃ share ∈ compiled.outputPlan.shares, share.identity = route.outputShareId := by
  have shares := route_shares compiled.needsMask outcomes
  rw [← delivery.routes,outcome_shares delivery.compilation.accepted.sound delivery.shapes] at shares
  have inside : route.outputShareId ∈ compiled.outputPlan.shares.map OutputShare.identity := by
    rw [delivery.compilation.plan,← shares]
    exact List.mem_map_of_mem member
  exact List.mem_map.mp inside

theorem Delivery.named (delivery : Delivery ℤ sha arguments compiled reference emission outcomes)
    (lifecycle : Lifecycle) (privatePlanDigest : String) :
    (compiled.bound privatePlanDigest).Named lifecycle := by
  constructor
  · intro operand member
    obtain ⟨spec,inside,rfl⟩ := List.mem_map.mp member
    obtain ⟨part,_,same⟩ := delivery.part_of_spec spec inside
    have keyed : part.queryId = spec.queryCiphertextId := by
      have keys := same
      simp only [OperandSpec.key,Part.key,Prod.mk.injEq] at keys
      exact keys.2.1
    refine acceptsId_of_validId lifecycle _ ?_
    rw [← keyed]
    exact Name.text_valid _
  · intro entry member
    obtain ⟨route,id⟩ := entry
    obtain ⟨inside,held⟩ := (BoundQuery.mem_maskedRoutes _ _ _).mp member
    obtain ⟨share,inPlan,same⟩ := delivery.route_share route inside
    obtain ⟨ordinal,outcome,_,rfl⟩ := delivery.outcome_of_route route inside
    have ids := delivery.plan_valid.ids share inPlan
    have identity := toLex.injective same
    simp only [Prod.mk.injEq] at identity
    rw [identity.1,identity.2] at ids
    simp only [Outcome.route,Option.ite_none_right_eq_some,Option.some.injEq] at held
    refine ⟨acceptsId_of_validId _ _ ?_,acceptsId_of_validId _ _ (Name.text_valid _),
      acceptsId_of_validId _ _ ids.1,acceptsId_of_validId _ _ ids.2⟩
    rw [← held.2]
    exact Name.text_valid _

theorem compileQuery_named (sha : Sha256) (arguments : QuerySources) (compiled : CompiledQuery)
    (run : compileQuery sha arguments = .ok compiled) (lifecycle : Lifecycle) (privatePlanDigest : String) :
    (compiled.bound privatePlanDigest).Named lifecycle := by
  obtain ⟨reference,emission,compilation⟩ := compileQuery_compilation sha arguments compiled run
  obtain ⟨outcomes,delivery⟩ := compilation.delivery ℤ
  exact delivery.named lifecycle privatePlanDigest

end
end DynamicCssc
