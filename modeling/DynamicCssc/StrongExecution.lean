import DynamicCssc.BoundCompilation
import DynamicCssc.PreparationCodec

/-! The strong execution bundle: one CSSC base and one segmented delta under the uniform policy. -/
namespace DynamicCssc
open Foundation

inductive PrivateSourceKind
  | baseChunk
  | deltaPage
deriving DecidableEq, Repr

def PrivateSourceKind.text : PrivateSourceKind → String
  | .baseChunk => "base-chunk"
  | .deltaPage => "delta-page"

structure PrivateOperandSpec where
  valueCiphertextId : String
  queryCiphertextId : String
  sourceKind : PrivateSourceKind
  sourceOrdinal : ℕ
  resultId : String
  values : List ℤ
  globalColumnIndices : List ℤ
deriving DecidableEq, Repr

structure PrivateResultRoute where
  resultId : String
  f1mCiphertextId : String
  componentId : String
  outputBlockId : String
deriving DecidableEq, Repr

structure F1MOperandCounts where
  randomZeroSumCiphertexts : ℕ
  encryptedZeroDummyCiphertexts : ℤ
  randomElements : ℕ
  ciphertextAdditions : ℕ
deriving DecidableEq, Repr

structure StrongExecutionBundle where
  base : PublishedComponent
  delta : SegmentedDeltaState
  cloudPlan : CloudExecutionPlan
  outputPlan : OutputPlan
  resultRoutes : List PrivateResultRoute
  valueOperandSpecs : List PrivateOperandSpec
  cloudProgramDigest : String
  outputPlanDigest : String
  executionBindingDigest : String
  privatePlanDigest : String
  cloudCounts : CloudPlanCounts
  outputAnalysis : OutputPlanAnalysis
  f1mCounts : F1MOperandCounts
deriving DecidableEq, Repr

namespace StrongExecution

def strongError (message : String) : Failure := ⟨.strongExecutionError,message⟩

/-- `_canonical_private_plan_payload`. -/
def privatePlanPayload (specs : List PrivateOperandSpec) (routes : List PrivateResultRoute)
    (outputPlanDigest : String) : Json :=
  .object [("format",.str "dynamic-cssc-private-strong-plan-v1"),
    ("output_plan_digest",.str outputPlanDigest),
    ("operands",.arr (specs.map fun spec => .object [
      ("global_column_indices",.ints spec.globalColumnIndices),
      ("query_ciphertext_id",.str spec.queryCiphertextId),
      ("result_id",.str spec.resultId),
      ("source_kind",.str spec.sourceKind.text),
      ("source_ordinal",.nat spec.sourceOrdinal),
      ("value_ciphertext_id",.str spec.valueCiphertextId),
      ("values",.ints spec.values)])),
    ("routes",.arr (routes.map fun route => .object [
      ("component_id",.str route.componentId),
      ("f1m_ciphertext_id",.str route.f1mCiphertextId),
      ("output_block_id",.str route.outputBlockId),
      ("result_id",.str route.resultId)]))]

def privatePlanDigest (sha : Sha256) (specs : List PrivateOperandSpec) (routes : List PrivateResultRoute)
    (outputPlanDigest : String) : String :=
  sha.hexdigest (Json.dumps true (privatePlanPayload specs routes outputPlanDigest))

/-- The handler of `QueryCompilerError`; other exceptions go through. -/
def translated (run : Checked CompiledQuery) : Checked CompiledQuery :=
  match run with
  | .ok compiled => .ok compiled
  | .error failure =>
    if failure.kind = .queryCompilerError then
      .error (strongError (
        if failure.message = "PublishedComponent is invalid" then "base PublishedComponent is invalid"
        else if failure.message = "active source coordinates must not overlap" then
          "active base and delta coordinates must be disjoint"
        else failure.message))
    else .error failure

/-- `source_kind_by_common[spec.source_kind]`. -/
def privateSpec (spec : OperandSpec) : Checked PrivateOperandSpec :=
  let withKind (kind : PrivateSourceKind) : PrivateOperandSpec :=
    ⟨spec.valueCiphertextId,spec.queryCiphertextId,kind,spec.sourceOrdinal,spec.resultId,spec.values,
      spec.globalColumnIndices⟩
  match spec.sourceKind with
  | .publishedChunk => .ok (withKind .baseChunk)
  | .segmentedDeltaPage => .ok (withKind .deltaPage)
  | .clientLaneSegment => .error ⟨.keyError,PlaintextOracle.quoted "client-lane-segment"⟩

def privateRoute (route : ResultRoute) : Option PrivateResultRoute :=
  route.f1mCiphertextId.map fun id => ⟨route.resultId,id,route.componentId,route.outputBlockId⟩

/-- The arguments that `_compile` passes to `compile_query`. -/
def sources (base : PublishedComponent) (delta : SegmentedDeltaState) : QuerySources :=
  ⟨[base],some delta,[],.uniformRandomOrZero⟩

/-- `compile_strong_execution`. -/
def compile (sha : Sha256) (base : PublishedComponent) (delta : SegmentedDeltaState) :
    Checked StrongExecutionBundle := do
  let compiled ← translated (compileQuery sha (sources base delta))
  let specs ← compiled.operandSpecs.mapM privateSpec
  let routes := compiled.resultRoutes.filterMap privateRoute
  Checked.require (routes.length = compiled.resultRoutes.length)
    ⟨.assertionError,"the strong adapter requires uniform F1M operands"⟩
  let randomCiphertexts := compiled.outputAnalysis.maskedResultCiphertexts
  return {
    base := base
    delta := delta
    cloudPlan := compiled.cloudPlan
    outputPlan := compiled.outputPlan
    resultRoutes := routes
    valueOperandSpecs := specs
    cloudProgramDigest := compiled.cloudProgramDigest
    outputPlanDigest := compiled.outputPlanDigest
    executionBindingDigest := compiled.executionBindingDigest
    privatePlanDigest := privatePlanDigest sha specs routes compiled.outputPlanDigest
    cloudCounts := compiled.cloudCounts
    outputAnalysis := compiled.outputAnalysis
    f1mCounts := {
      randomZeroSumCiphertexts := randomCiphertexts
      encryptedZeroDummyCiphertexts := (routes.length : ℤ) - randomCiphertexts
      randomElements := compiled.outputAnalysis.maskRandomElements
      ciphertextAdditions := compiled.cloudCounts.addF1MMasks } }

def validateBundle (sha : Sha256) (bundle : StrongExecutionBundle) : Checked Unit := do
  let expected ← compile sha bundle.base bundle.delta
  Checked.require (bundle = expected)
    (strongError "bundle does not match its deterministically derived plans")

end StrongExecution

open StrongExecution

/-- What the lifecycle reads of a bundle. -/
def StrongExecutionBundle.bound (bundle : StrongExecutionBundle) : BoundQuery where
  versionId := bundle.base.versionId
  cols := bundle.base.layoutSpec.cols
  cloudPlan := bundle.cloudPlan
  outputPlan := bundle.outputPlan
  operands := bundle.valueOperandSpecs.map fun spec =>
    ⟨spec.valueCiphertextId,spec.queryCiphertextId,spec.values,spec.globalColumnIndices⟩
  routes := bundle.resultRoutes.map fun route =>
    ⟨route.resultId,some route.f1mCiphertextId,route.componentId,route.outputBlockId⟩
  cloudProgramDigest := bundle.cloudProgramDigest
  outputPlanDigest := bundle.outputPlanDigest
  executionBindingDigest := bundle.executionBindingDigest
  privatePlanDigest := bundle.privatePlanDigest

/-- `_validate_prepared`. -/
def validatePreparedStrong (bundle : StrongExecutionBundle) (prepared : PreparedQuery) : Checked Unit :=
  validatePrepared .strong bundle.bound prepared

def canonicalStrongQueryPreparationBytes (sha : Sha256) (bundle : StrongExecutionBundle)
    (prepared : PreparedQuery) : Checked (List UInt8) := do
  validateBundle sha bundle
  validatePreparedStrong bundle prepared
  return preparationBytes .strong prepared

def decodeStrongQueryPreparationBytes (sha : Sha256) (bundle : StrongExecutionBundle) (content : List UInt8)
    (expectedQueryId : String) (expectedVector : List ℤ) : Checked PreparedQuery := do
  validateBundle sha bundle
  decodePreparation .strong bundle.bound content expectedQueryId expectedVector

namespace StrongExecution

private theorem mapM_privateSpec (specs : List OperandSpec) (privately : List PrivateOperandSpec)
    (mapped : specs.mapM privateSpec = .ok privately) :
    (privately.map fun spec : PrivateOperandSpec => (⟨spec.valueCiphertextId,spec.queryCiphertextId,spec.values,
      spec.globalColumnIndices⟩ : BoundOperand)) = specs.map fun spec : OperandSpec =>
        ⟨spec.valueCiphertextId,spec.queryCiphertextId,spec.values,spec.globalColumnIndices⟩ := by
  induction specs generalizing privately with
  | nil =>
    simp only [List.mapM_nil,pure,Except.pure,Except.ok.injEq] at mapped
    subst mapped
    rfl
  | cons spec specs ih =>
    simp only [List.mapM_cons,Checked.bind_success,pure,Except.pure,Except.ok.injEq] at mapped
    obtain ⟨first,made,rest,others,rfl⟩ := mapped
    rw [List.map_cons,List.map_cons,ih rest others]
    congr 1
    unfold privateSpec at made
    cases spec with
    | mk valueId queryId sourceKind ordinal resultId values columns =>
      cases sourceKind <;> cases made <;> rfl

private theorem filterMap_privateRoute (routes : List ResultRoute)
    (whole : (routes.filterMap privateRoute).length = routes.length) :
    ((routes.filterMap privateRoute).map fun route : PrivateResultRoute =>
      (⟨route.resultId,some route.f1mCiphertextId,route.componentId,route.outputBlockId⟩ : ResultRoute)) =
        routes := by
  induction routes with
  | nil => rfl
  | cons route routes ih =>
    have short := List.length_filterMap_le privateRoute routes
    obtain ⟨resultId,f1m,componentId,outputBlockId⟩ := route
    cases f1m with
    | none =>
      rw [List.filterMap_cons_none (by rfl)] at whole
      simp only [List.length_cons] at whole
      omega
    | some id =>
      rw [List.filterMap_cons_some (b := ⟨resultId,id,componentId,outputBlockId⟩) (by rfl)] at whole ⊢
      simp only [List.length_cons,Nat.add_right_cancel_iff] at whole
      rw [List.map_cons,ih whole]

private theorem compile_bound (sha : Sha256) (base : PublishedComponent) (delta : SegmentedDeltaState)
    (bundle : StrongExecutionBundle) (run : compile sha base delta = .ok bundle) :
    bundle.base = base ∧ bundle.delta = delta ∧ ∃ compiled,
      compileQuery sha (sources base delta) = .ok compiled ∧
        bundle.bound = compiled.bound bundle.privatePlanDigest := by
  simp only [compile,Checked.bind_success,Checked.require_success,exists_const,pure,Except.pure,
    Except.ok.injEq] at run
  obtain ⟨compiled,ran,specs,mapped,whole,rfl⟩ := run
  have succeeded : compileQuery sha (sources base delta) = .ok compiled := by
    cases result : compileQuery sha (sources base delta) with
    | ok other =>
      rw [result] at ran
      exact ran
    | error failure =>
      rw [result] at ran
      unfold translated at ran
      dsimp only at ran
      split at ran <;> cases ran
  obtain ⟨reference,emission,compilation⟩ := compileQuery_compilation sha _ compiled succeeded
  have first : compiled.sources.components.head? = some base := by
    rw [compilation.accepted.components]
    rfl
  have same : reference = base := Option.some.inj (compilation.accepted.first.symm.trans first)
  subst same
  refine ⟨rfl,rfl,compiled,succeeded,?_⟩
  simp only [StrongExecutionBundle.bound,CompiledQuery.bound,BoundQuery.mk.injEq,first,compilation.binding,
    Option.map_some,Option.getD_some,true_and]
  exact ⟨mapM_privateSpec _ _ mapped,filterMap_privateRoute _ whole,trivial⟩

theorem validateBundle_named (sha : Sha256) (bundle : StrongExecutionBundle)
    (valid : validateBundle sha bundle = .ok ()) : bundle.bound.Named .strong := by
  rw [validateBundle,Checked.bind_success] at valid
  obtain ⟨expected,run,same⟩ := valid
  rw [Checked.require_success] at same
  subst same
  obtain ⟨_,_,compiled,succeeded,bound⟩ := compile_bound sha _ _ _ run
  rw [bound]
  exact compileQuery_named sha _ compiled succeeded .strong _

end StrongExecution
end DynamicCssc
