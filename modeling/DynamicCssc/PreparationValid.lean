import DynamicCssc.QueryPreparation

/-! What `_validate_prepared` accepts. -/
namespace DynamicCssc
open Foundation

/-- An F1M operand on its route. -/
structure F1MFits (lifecycle : Lifecycle) (bound : BoundQuery) (prepared : PreparedQuery)
    (entry : PreparedF1MOperand × ResultRoute × String) (share : OutputShare) : Prop where
  found : shareById bound.outputPlan entry.2.1.outputShareId = .ok share
  ciphertextId : entry.1.ciphertextId = entry.2.2
  resultId : entry.1.resultId = entry.2.1.resultId
  kind : entry.1.kind = lifecycle.expectedKind
    (share.slotToLogical.any fun place => place.2 ∈ bound.outputPlan.overlapCoordinates)
  queryId : entry.1.queryId = prepared.queryId
  versionId : entry.1.versionId = bound.versionId
  outputPlanDigest : entry.1.outputPlanDigest = bound.outputPlanDigest
  shareId : entry.1.shareId = entry.2.1.outputShareId
  length : entry.1.values.length = bound.outputPlan.slotCount
  reduced : ∀ value ∈ entry.1.values, 0 ≤ value ∧ value < prepared.modulus
  dummy : entry.1.kind = .encryptedZeroDummy → ∀ value ∈ entry.1.values, value = 0
  lanes : ∀ place ∈ entry.1.values.zipIdx, place.1 = 0 ∨ place.2 ∈ overlapLanes bound.outputPlan share

private theorem validateF1MOperand_success (lifecycle : Lifecycle) (bound : BoundQuery) (prepared : PreparedQuery)
    (held : SharedValues) (entry : PreparedF1MOperand × ResultRoute × String) (result : SharedValues) :
    validateF1MOperand lifecycle bound prepared held entry = .ok result ↔
      (∃ share, F1MFits lifecycle bound prepared entry share) ∧
        result = Dict.set entry.2.1.outputShareId entry.1.values held := by
  rw [validateF1MOperand,Checked.bind_success]
  constructor
  · intro both
    obtain ⟨share,found,passed⟩ := both
    simp only [Checked.then_success,Checked.require_success,pure,Except.pure,Except.ok.injEq] at passed
    obtain ⟨⟨ciphertextId,resultId,kind,queryId,versionId,digest,shareId,length,reduced⟩,dummy,lanes,rfl⟩ := passed
    exact ⟨⟨share,found,ciphertextId,resultId,kind,queryId,versionId,digest,shareId,length,reduced,dummy,lanes⟩,rfl⟩
  · intro both
    obtain ⟨⟨share,fits⟩,same⟩ := both
    refine ⟨share,fits.found,?_⟩
    simp only [Checked.then_success,Checked.require_success,pure,Except.pure,Except.ok.injEq]
    exact ⟨⟨fits.ciphertextId,fits.resultId,fits.kind,fits.queryId,fits.versionId,fits.outputPlanDigest,
      fits.shareId,fits.length,fits.reduced⟩,fits.dummy,fits.lanes,same.symm⟩

/-- `values_by_share` behind the loop. -/
def sharedValues (bound : BoundQuery) (prepared : PreparedQuery) : SharedValues :=
  (prepared.f1mOperands.zip bound.maskedRoutes).foldl
    (fun held entry => Dict.set entry.2.1.outputShareId entry.1.values held) []

structure PreparedQuery.Valid (lifecycle : Lifecycle) (bound : BoundQuery) (prepared : PreparedQuery) : Prop where
  versionId : prepared.versionId = bound.versionId
  cloudProgramDigest : prepared.cloudProgramDigest = bound.cloudProgramDigest
  outputPlanDigest : prepared.outputPlanDigest = bound.outputPlanDigest
  executionBindingDigest : prepared.executionBindingDigest = bound.executionBindingDigest
  privatePlanDigest : prepared.privatePlanDigest = bound.privatePlanDigest
  queryIdAccepted : lifecycle.acceptsId prepared.queryId = true
  versionIdAccepted : lifecycle.acceptsId prepared.versionId = true
  token : validSha256 prepared.ledgerCommitmentToken = true
  modulus : 2 ≤ prepared.modulus
  vector : prepared.vector.length = bound.cols
  queries : ∃ expected, expectedQueries bound prepared.vector = .ok expected ∧
    prepared.queryOperands.map PreparedQueryOperand.compared = expected.map PreparedQueryOperand.compared
  cover : prepared.f1mOperands.length = bound.maskedRoutes.length
  operands : ∀ entry ∈ prepared.f1mOperands.zip bound.maskedRoutes,
    ∃ share, F1MFits lifecycle bound prepared entry share
  cancels : ∀ logical ∈ bound.outputPlan.overlapCoordinates, validateCancels lifecycle bound.outputPlan
    prepared.modulus (sharedValues bound prepared) logical = .ok ()

theorem validatePrepared_success (lifecycle : Lifecycle) (bound : BoundQuery) (prepared : PreparedQuery) :
    validatePrepared lifecycle bound prepared = .ok () ↔ prepared.Valid lifecycle bound := by
  have loop (held : SharedValues) := Checked.foldlM_success (validateF1MOperand lifecycle bound prepared)
    (fun held entry => Dict.set entry.2.1.outputShareId entry.1.values held) _
    (validateF1MOperand_success lifecycle bound prepared) (prepared.f1mOperands.zip bound.maskedRoutes) [] held
  rw [validatePrepared]
  simp only [Checked.bind_success,Checked.require_success,zipStrict_success,Checked.each_success,exists_const]
  constructor
  · intro passed
    obtain ⟨⟨version,program,plan,binding,privately,queryId,versionId,token,modulus⟩,vector,expected,queries,
      same,cover,pairs,⟨_,zipped⟩,held,folded,cancels⟩ := passed
    subst zipped
    obtain ⟨fits,rfl⟩ := (loop held).mp folded
    exact ⟨version,program,plan,binding,privately,queryId,versionId,token,modulus,vector,⟨expected,queries,same⟩,
      cover,fits,cancels⟩
  · intro valid
    obtain ⟨expected,queries,same⟩ := valid.queries
    exact ⟨⟨valid.versionId,valid.cloudProgramDigest,valid.outputPlanDigest,valid.executionBindingDigest,
      valid.privatePlanDigest,valid.queryIdAccepted,valid.versionIdAccepted,valid.token,valid.modulus⟩,valid.vector,
      expected,queries,same,valid.cover,_,⟨valid.cover,rfl⟩,_,(loop _).mpr ⟨valid.operands,rfl⟩,valid.cancels⟩

structure BoundQuery.Named (lifecycle : Lifecycle) (bound : BoundQuery) : Prop where
  queries : ∀ spec ∈ bound.operands, lifecycle.acceptsId spec.queryCiphertextId = true
  routes : ∀ entry ∈ bound.maskedRoutes, lifecycle.acceptsId entry.2 = true ∧
    lifecycle.acceptsId entry.1.resultId = true ∧ lifecycle.acceptsId entry.1.componentId = true ∧
    lifecycle.acceptsId entry.1.outputBlockId = true

theorem acceptsId_of_validId (lifecycle : Lifecycle) (value : String) (valid : validId value = true) :
    lifecycle.acceptsId value = true := by
  cases lifecycle with
  | strong =>
    rw [validId,Bool.and_eq_true] at valid
    exact valid.1
  | ordinary => exact valid

namespace PreparedQuery.Valid
variable {lifecycle : Lifecycle} {bound : BoundQuery} {prepared : PreparedQuery}

theorem queries_named (valid : prepared.Valid lifecycle bound) (named : bound.Named lifecycle) :
    ∀ operand ∈ prepared.queryOperands, lifecycle.acceptsId operand.ciphertextId = true := by
  intro operand member
  obtain ⟨expected,queries,same⟩ := valid.queries
  have among : operand.compared ∈ expected.map PreparedQueryOperand.compared :=
    same ▸ List.mem_map_of_mem member
  obtain ⟨other,inExpected,equal⟩ := List.mem_map.mp among
  obtain ⟨spec,inside,made⟩ := Checked.mem_of_mapM queries other inExpected
  simp only [Checked.bind_success,pure,Except.pure,Except.ok.injEq] at made
  obtain ⟨values,_,rfl⟩ := made
  rw [← show spec.queryCiphertextId = operand.ciphertextId from congrArg Prod.fst equal]
  exact named.queries spec inside

theorem operand_fits (valid : prepared.Valid lifecycle bound) :
    ∀ operand ∈ prepared.f1mOperands, ∃ entry ∈ bound.maskedRoutes, ∃ share,
      F1MFits lifecycle bound prepared (operand,entry) share := by
  intro operand member
  obtain ⟨index,below,rfl⟩ := List.mem_iff_getElem.mp member
  have inside : index < bound.maskedRoutes.length := valid.cover ▸ below
  have paired : (prepared.f1mOperands[index],bound.maskedRoutes[index]) ∈
      prepared.f1mOperands.zip bound.maskedRoutes :=
    List.mem_iff_getElem.mpr ⟨index,by simp [below,inside],by simp⟩
  exact ⟨_,List.getElem_mem inside,valid.operands _ paired⟩

end PreparedQuery.Valid
end DynamicCssc
