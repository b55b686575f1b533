import DynamicCssc.BoundCompilation
import DynamicCssc.PreparationCodec

/-! The ordinary execution bundle: one compiled query under the overlap-only policy. -/
namespace DynamicCssc
open Foundation

def F1MPolicy.text : F1MPolicy → String
  | .overlapOnly => "overlap-only"
  | .uniformRandomOrZero => "uniform-random-or-zero"

def OperandSourceKind.text : OperandSourceKind → String
  | .publishedChunk => "published-chunk"
  | .segmentedDeltaPage => "segmented-delta-page"
  | .clientLaneSegment => "client-lane-segment"

/-- `canonical_query_private_plan_payload`. -/
def CompiledQuery.privatePlanPayload (compiled : CompiledQuery) : Json :=
  .object [("bindings",.object [
      ("cloud_program_digest",.str compiled.cloudProgramDigest),
      ("execution_binding_digest",.str compiled.executionBindingDigest),
      ("output_plan_digest",.str compiled.outputPlanDigest),
      ("version_id",.str compiled.cloudPlan.binding.versionId)]),
    ("f1m_policy",.str compiled.sources.f1mPolicy.text),
    ("format",.str "dynamic-cssc-common-ordinary-private-plan-v1"),
    ("operands",.arr (compiled.operandSpecs.map fun spec => .object [
      ("global_column_indices",.ints spec.globalColumnIndices),
      ("query_ciphertext_id",.str spec.queryCiphertextId),
      ("result_id",.str spec.resultId),
      ("source_kind",.str spec.sourceKind.text),
      ("source_ordinal",.nat spec.sourceOrdinal),
      ("value_ciphertext_id",.str spec.valueCiphertextId),
      ("values",.ints spec.values)])),
    ("routes",.arr (compiled.resultRoutes.map fun route => .object [
      ("component_id",.str route.componentId),
      ("f1m_ciphertext_id",match route.f1mCiphertextId with
        | some id => .str id
        | none => .null),
      ("output_block_id",.str route.outputBlockId),
      ("result_id",.str route.resultId)]))]

def CompiledQuery.privatePlanDigest (sha : Sha256) (compiled : CompiledQuery) : String :=
  sha.hexdigest (Json.dumps true compiled.privatePlanPayload)

def validateCompiledQuery (sha : Sha256) (compiled : CompiledQuery) : Checked Unit := do
  validateCompiledParts sha compiled
  let expected ← compileQuery sha compiled.sources
  Checked.require (compiled = expected)
    (compilerError "CompiledQuery is not its deterministic canonical compilation")

structure OrdinaryExecutionBundle where
  compiled : CompiledQuery
  privatePlanDigest : String
deriving DecidableEq, Repr

namespace OrdinaryQueryLifecycle

def ordinaryError (message : String) : Failure := ⟨.ordinaryQueryLifecycleError,message⟩

/-- The exception classes of the package that derive from `ValueError`. -/
def isValueError : ExceptionKind → Bool
  | .assertionError | .runtimeError | .keyError | .indexError | .typeError | .duplicateMaskBindingError
  | .preparedF1MCommitmentError | .consumedPreparedF1MCommitmentError | .runnerFailure => false
  | _ => true

/-- `except ValueError as error: raise ... from error`. -/
def wrapped {α : Type} (message : String) (run : Checked α) : Checked α :=
  match run with
  | .ok value => .ok value
  | .error failure => if isValueError failure.kind then .error (ordinaryError message) else .error failure

def bindOrdinaryExecution (sha : Sha256) (compiled : CompiledQuery) : Checked OrdinaryExecutionBundle := do
  wrapped "ordinary compilation is not canonical" (validateCompiledQuery sha compiled)
  Checked.require (compiled.sources.f1mPolicy = .overlapOnly)
    (ordinaryError "ordinary lifecycle requires the exact overlap-only F1-M policy")
  return ⟨compiled,compiled.privatePlanDigest sha⟩

def validateBundle (sha : Sha256) (bundle : OrdinaryExecutionBundle) : Checked Unit := do
  let expected ← bindOrdinaryExecution sha bundle.compiled
  Checked.require (bundle = expected) (ordinaryError "ordinary bundle changed after canonical binding")

end OrdinaryQueryLifecycle

open OrdinaryQueryLifecycle

/-- What the lifecycle reads of a bundle. -/
def OrdinaryExecutionBundle.bound (bundle : OrdinaryExecutionBundle) : BoundQuery :=
  bundle.compiled.bound bundle.privatePlanDigest

/-- `_validate_prepared`. -/
def validatePreparedOrdinary (bundle : OrdinaryExecutionBundle) (prepared : PreparedQuery) : Checked Unit :=
  validatePrepared .ordinary bundle.bound prepared

def canonicalOrdinaryQueryPreparationBytes (sha : Sha256) (bundle : OrdinaryExecutionBundle)
    (prepared : PreparedQuery) : Checked (List UInt8) := do
  OrdinaryQueryLifecycle.validateBundle sha bundle
  validatePreparedOrdinary bundle prepared
  return preparationBytes .ordinary prepared

def decodeOrdinaryQueryPreparationBytes (sha : Sha256) (bundle : OrdinaryExecutionBundle)
    (content : List UInt8) (expectedQueryId : String) (expectedVector : List ℤ) : Checked PreparedQuery := do
  OrdinaryQueryLifecycle.validateBundle sha bundle
  decodePreparation .ordinary bundle.bound content expectedQueryId expectedVector

namespace OrdinaryQueryLifecycle

private theorem wrapped_success {α : Type} (message : String) (run : Checked α) (value : α) :
    wrapped message run = .ok value ↔ run = .ok value := by
  cases run with
  | ok held => rfl
  | error failure =>
    unfold wrapped
    dsimp only
    split <;> simp

/-- A bundle is bound exactly to a compilation of its own sources. -/
private theorem bindOrdinaryExecution_success (sha : Sha256) (compiled : CompiledQuery)
    (bundle : OrdinaryExecutionBundle) (bound : bindOrdinaryExecution sha compiled = .ok bundle) :
    compileQuery sha compiled.sources = .ok compiled ∧ compiled.sources.f1mPolicy = .overlapOnly ∧
      bundle = ⟨compiled,compiled.privatePlanDigest sha⟩ := by
  rw [bindOrdinaryExecution,Checked.then_success,wrapped_success,validateCompiledQuery,Checked.then_success,
    Checked.bind_success] at bound
  obtain ⟨⟨_,expected,run,same⟩,bound⟩ := bound
  simp only [Checked.then_success,Checked.require_success,pure,Except.pure,Except.ok.injEq] at bound same
  obtain ⟨policy,rfl⟩ := bound
  exact ⟨same ▸ run,policy,rfl⟩

theorem validateBundle_success (sha : Sha256) (bundle : OrdinaryExecutionBundle)
    (valid : validateBundle sha bundle = .ok ()) :
    compileQuery sha bundle.compiled.sources = .ok bundle.compiled ∧
      bundle.compiled.sources.f1mPolicy = .overlapOnly := by
  simp only [validateBundle,Checked.bind_success,Checked.require_success] at valid
  obtain ⟨expected,bound,_⟩ := valid
  obtain ⟨run,policy,_⟩ := bindOrdinaryExecution_success sha _ _ bound
  exact ⟨run,policy⟩

end OrdinaryQueryLifecycle
end DynamicCssc
