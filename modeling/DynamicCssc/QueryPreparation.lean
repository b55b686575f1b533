import DynamicCssc.Foundation.PyNumber
import DynamicCssc.MaskLedger
import DynamicCssc.QueryOperands

/-! Prepared queries: their validation against a compiled query, their canonical bytes and the decoder.
The strong and the ordinary lifecycle keep their own copies of this code; they differ in texts, in the
identifiers they accept and in the kinds of the F1M operands. -/
namespace DynamicCssc
open Foundation PlaintextOracle

inductive Lifecycle
  | strong
  | ordinary
deriving DecidableEq, Repr

/-- `PreparedQueryOperand` and `PreparedOrdinaryQueryOperand`. No check looks at the class of a value. -/
structure PreparedQueryOperand where
  ciphertextId : String
  values : List PyNumber
deriving DecidableEq, Repr

/-- What `==` compares of an operand: its numbers by their values. -/
def PreparedQueryOperand.compared (operand : PreparedQueryOperand) : String × List ℚ :=
  (operand.ciphertextId,operand.values.map PyNumber.value)

/-- `PreparedF1MOperand` and `PreparedOrdinaryF1MOperand`. -/
structure PreparedF1MOperand where
  ciphertextId : String
  resultId : String
  kind : PreparedF1MKind
  queryId : String
  versionId : String
  outputPlanDigest : String
  componentId : String
  outputBlockId : String
  values : List ℤ
deriving DecidableEq, Repr

def PreparedF1MOperand.shareId (operand : PreparedF1MOperand) : ShareIdentity :=
  toLex (operand.componentId,operand.outputBlockId)

/-- `PreparedStrongQuery` and `PreparedOrdinaryQuery`. -/
structure PreparedQuery where
  queryId : String
  versionId : String
  modulus : ℤ
  vector : List ℤ
  cloudProgramDigest : String
  outputPlanDigest : String
  executionBindingDigest : String
  privatePlanDigest : String
  ledgerCommitmentToken : String
  queryOperands : List PreparedQueryOperand
  f1mOperands : List PreparedF1MOperand
deriving DecidableEq, Repr

structure BoundOperand where
  valueCiphertextId : String
  queryCiphertextId : String
  values : List ℤ
  globalColumnIndices : List ℤ
deriving DecidableEq, Repr

structure BoundQuery where
  versionId : String
  cols : ℕ
  cloudPlan : CloudExecutionPlan
  outputPlan : OutputPlan
  operands : List BoundOperand
  routes : List ResultRoute
  cloudProgramDigest : String
  outputPlanDigest : String
  executionBindingDigest : String
  privatePlanDigest : String
deriving DecidableEq, Repr

/-- The routes with an F1M ciphertext, each with its identifier: all of them in the strong lifecycle,
`_masked_routes` in the ordinary one. -/
def BoundQuery.maskedRoutes (bound : BoundQuery) : List (ResultRoute × String) :=
  bound.routes.filterMap fun route => route.f1mCiphertextId.map fun id => (route,id)

namespace Lifecycle

def failure (message : String) : Lifecycle → Failure
  | .strong => ⟨.strongExecutionError,message⟩
  | .ordinary => ⟨.ordinaryQueryLifecycleError,message⟩

def preparationFailure (lifecycle : Lifecycle) (message : String) : Failure :=
  match lifecycle with
  | .strong => lifecycle.failure ("strong query preparation " ++ message)
  | .ordinary => lifecycle.failure ("ordinary query preparation " ++ message)

def schema : Lifecycle → String
  | .strong => "dynamic-cssc-common-strong-query-preparation-v1"
  | .ordinary => "dynamic-cssc-common-ordinary-query-preparation-v1"

/-- A nonempty string, or `_valid_id`. -/
def acceptsId (value : String) : Lifecycle → Bool
  | .strong => !value.toList.isEmpty
  | .ordinary => validId value

/-- The kind of an F1M operand, from whether its share maps an overlap. -/
def expectedKind (overlaps : Bool) : Lifecycle → PreparedF1MKind
  | .strong => if overlaps then .randomZeroSum else .encryptedZeroDummy
  | .ordinary => .randomZeroSum

def kinds : Lifecycle → List PreparedF1MKind
  | .strong => [.randomZeroSum,.encryptedZeroDummy]
  | .ordinary => [.randomZeroSum]

def vectorFailure (length : ℕ) (lifecycle : Lifecycle) : Failure :=
  match lifecycle with
  | .strong => lifecycle.failure ("vector must be a tuple of length " ++ Nat.repr length)
  | .ordinary => lifecycle.failure ("vector must be an exact tuple of length " ++ Nat.repr length)

def bindingFailure (lifecycle : Lifecycle) : Failure :=
  match lifecycle with
  | .strong => lifecycle.failure "prepared query does not match the execution bundle binding"
  | .ordinary => lifecycle.failure "prepared ordinary query does not match its execution bundle binding"

def queriesFailure (lifecycle : Lifecycle) : Failure :=
  match lifecycle with
  | .strong => lifecycle.failure "prepared query operands do not match private global CI"
  | .ordinary => lifecycle.failure "prepared ordinary query operands do not match private global columns"

def coverFailure (lifecycle : Lifecycle) : Failure :=
  match lifecycle with
  | .strong => lifecycle.failure "prepared query must contain one F1-M operand per result"
  | .ordinary => lifecycle.failure
    "prepared ordinary query must cover every compiled F1-M route exactly once"

def operandFailure (lifecycle : Lifecycle) : Failure :=
  match lifecycle with
  | .strong => lifecycle.failure "prepared F1-M operand does not match its result binding"
  | .ordinary => lifecycle.failure "prepared ordinary F1-M operand changed its exact overlap route"

/-- The ordinary lifecycle has no dummy operands and this check can not fail there. -/
def dummyFailure (lifecycle : Lifecycle) : Failure :=
  match lifecycle with
  | .strong => lifecycle.failure "encrypted-zero dummy F1-M operand must be exactly zero"
  | .ordinary => lifecycle.operandFailure

def lanesFailure (lifecycle : Lifecycle) : Failure :=
  match lifecycle with
  | .strong => lifecycle.failure "random F1-M values may occupy only overlapping lanes"
  | .ordinary => lifecycle.operandFailure

def cancelFailure (lifecycle : Lifecycle) : Failure :=
  match lifecycle with
  | .strong => lifecycle.failure "random F1-M values must sum to zero per coordinate"
  | .ordinary => lifecycle.failure
    "prepared ordinary F1-M values do not cancel per overlapping coordinate"

end Lifecycle

/-! `_validate_prepared`. -/

/-- The operand of a column list: `vector[column] if column >= 0 else 0`. -/
def gathered (vector columns : List ℤ) : Checked (List ℤ) :=
  columns.mapM fun column : ℤ =>
    if 0 ≤ column then
      match vector[column.toNat]? with
      | some value => .ok value
      | none => .error ⟨.indexError,"tuple index out of range"⟩
    else .ok 0

def expectedQueries (bound : BoundQuery) (vector : List ℤ) : Checked (List PreparedQueryOperand) :=
  bound.operands.mapM fun spec => do
    let values ← gathered vector spec.globalColumnIndices
    return ⟨spec.queryCiphertextId,values.map .int⟩

/-- `KeyError` of an output share. -/
def missingShare (shareId : ShareIdentity) : Failure :=
  ⟨.keyError,"(" ++ quoted (ofLex shareId).1 ++ ", " ++ quoted (ofLex shareId).2 ++ ")"⟩

/-- `share_by_id[share_id]`; the identities of a compiled plan are distinct. -/
def shareById (plan : OutputPlan) (shareId : ShareIdentity) : Checked OutputShare :=
  match plan.shares.find? fun share => share.identity = shareId with
  | some share => .ok share
  | none => .error (missingShare shareId)

/-- `mapped_overlap_lanes`, as the list of the set. -/
def overlapLanes (plan : OutputPlan) (share : OutputShare) : List ℕ :=
  (share.slotToLogical.filter fun entry => entry.2 ∈ plan.overlapCoordinates).map Prod.fst

abbrev SharedValues := List (ShareIdentity × List ℤ)

/-- The body of the loop over operands and routes. -/
def validateF1MOperand (lifecycle : Lifecycle) (bound : BoundQuery) (prepared : PreparedQuery)
    (held : SharedValues) (entry : PreparedF1MOperand × ResultRoute × String) : Checked SharedValues := do
  let (operand,route,f1mCiphertextId) := entry
  let share ← shareById bound.outputPlan route.outputShareId
  let overlapping := share.slotToLogical.any fun place => place.2 ∈ bound.outputPlan.overlapCoordinates
  Checked.require (operand.ciphertextId = f1mCiphertextId ∧ operand.resultId = route.resultId ∧
      operand.kind = lifecycle.expectedKind overlapping ∧ operand.queryId = prepared.queryId ∧
      operand.versionId = bound.versionId ∧ operand.outputPlanDigest = bound.outputPlanDigest ∧
      operand.shareId = route.outputShareId ∧ operand.values.length = bound.outputPlan.slotCount ∧
      ∀ value ∈ operand.values, 0 ≤ value ∧ value < prepared.modulus) lifecycle.operandFailure
  Checked.require (operand.kind = .encryptedZeroDummy → ∀ value ∈ operand.values, value = 0)
    lifecycle.dummyFailure
  Checked.require (∀ place ∈ operand.values.zipIdx, place.1 = 0 ∨ place.2 ∈ overlapLanes bound.outputPlan share)
    lifecycle.lanesFailure
  return Dict.set route.outputShareId operand.values held

/-- `values_by_share[share_id][lane]`. -/
def sharedLane (held : SharedValues) (place : ShareLane) : Checked ℤ :=
  match held.lookup place.1 with
  | some values =>
    match values[place.2]? with
    | some value => .ok value
    | none => .error ⟨.indexError,"tuple index out of range"⟩
  | none => .error (missingShare place.1)

/-- The loop over the lanes of one overlapping coordinate. -/
def validateCancels (lifecycle : Lifecycle) (plan : OutputPlan) (modulus : ℤ) (held : SharedValues)
    (logical : ℤ) : Checked Unit := do
  let total ← (plan.contributors logical).foldlM (fun total place => do
    let value ← sharedLane held place
    return total + value) 0
  Checked.require (total % modulus = 0) lifecycle.cancelFailure

def validatePrepared (lifecycle : Lifecycle) (bound : BoundQuery) (prepared : PreparedQuery) :
    Checked Unit := do
  Checked.require (prepared.versionId = bound.versionId ∧
      prepared.cloudProgramDigest = bound.cloudProgramDigest ∧
      prepared.outputPlanDigest = bound.outputPlanDigest ∧
      prepared.executionBindingDigest = bound.executionBindingDigest ∧
      prepared.privatePlanDigest = bound.privatePlanDigest ∧
      lifecycle.acceptsId prepared.queryId = true ∧ lifecycle.acceptsId prepared.versionId = true ∧
      validSha256 prepared.ledgerCommitmentToken = true ∧ 2 ≤ prepared.modulus) lifecycle.bindingFailure
  Checked.require (prepared.vector.length = bound.cols) (lifecycle.vectorFailure bound.cols)
  let expected ← expectedQueries bound prepared.vector
  Checked.require (prepared.queryOperands.map PreparedQueryOperand.compared =
    expected.map PreparedQueryOperand.compared) lifecycle.queriesFailure
  Checked.require (prepared.f1mOperands.length = bound.maskedRoutes.length) lifecycle.coverFailure
  let pairs ← zipStrict prepared.f1mOperands bound.maskedRoutes
  let held ← pairs.foldlM (validateF1MOperand lifecycle bound prepared) []
  Checked.each (validateCancels lifecycle bound.outputPlan prepared.modulus held)
    bound.outputPlan.overlapCoordinates

/-! The canonical bytes. -/

def queryOperandPayload (operand : PreparedQueryOperand) : PyJson :=
  .obj [("ciphertext_id",.str operand.ciphertextId),("values",.arr (operand.values.map PyNumber.json))]

def f1mOperandPayload (operand : PreparedF1MOperand) : PyJson :=
  .obj [("ciphertext_id",.str operand.ciphertextId),("component_id",.str operand.componentId),
    ("kind",.str operand.kind.text),("output_block_id",.str operand.outputBlockId),
    ("result_id",.str operand.resultId),("values",.ints operand.values)]

def bindingsPayload (prepared : PreparedQuery) : PyJson :=
  .obj [("cloud_program_digest",.str prepared.cloudProgramDigest),
    ("execution_binding_digest",.str prepared.executionBindingDigest),
    ("output_plan_digest",.str prepared.outputPlanDigest),
    ("private_plan_digest",.str prepared.privatePlanDigest)]

def preparationPayload (lifecycle : Lifecycle) (prepared : PreparedQuery) : PyJson :=
  .obj [("bindings",bindingsPayload prepared),
    ("f1m_operands",.arr (prepared.f1mOperands.map f1mOperandPayload)),
    ("format",.str lifecycle.schema),
    ("ledger_commitment_token",.str prepared.ledgerCommitmentToken),
    ("modulus",.int prepared.modulus),
    ("query_id",.str prepared.queryId),
    ("query_operands",.arr (prepared.queryOperands.map queryOperandPayload)),
    ("version_id",.str prepared.versionId)]

def preparationBytes (lifecycle : Lifecycle) (prepared : PreparedQuery) : List UInt8 :=
  Json.asciiEncode (preparationPayload lifecycle prepared).text

/-! The decoder. -/

/-- `set(fields) == set(names)`. -/
def hasKeys (fields : List (String × Json)) (names : List String) : Bool :=
  fields.all (fun field => names.contains field.1) && names.all fun name => (fields.map Prod.fst).contains name

def decodeText (lifecycle : Lifecycle) (content : List UInt8) : Checked Json :=
  match Json.asciiDecode content with
  | none => .error (lifecycle.preparationFailure "is not canonical ASCII JSON")
  | some text =>
    match Json.loads text with
    | .ok payload => .ok payload
    | .error .decode => .error (lifecycle.preparationFailure "is not canonical ASCII JSON")
    | .error .duplicate => .error (lifecycle.preparationFailure "contains a duplicate JSON key")
    -- a float or a lone surrogate is refused here or at the field that holds it
    | .error .foreign => .error (lifecycle.preparationFailure "is not one canonical object")

def members (invalid : Failure) : Json → Checked (List (String × Json))
  | .obj fields => .ok fields
  | _ => .error invalid

def strictValues (lifecycle : Lifecycle) (label : String) (value : Option Json) : Checked (List ℤ) :=
  match value with
  | some (.arr items) => items.mapM fun item =>
    match item with
    | .int value => .ok value
    | _ => .error (lifecycle.preparationFailure (label ++ " values are invalid"))
  | _ => .error (lifecycle.preparationFailure (label ++ " values are invalid"))

def decodeQueryOperand (lifecycle : Lifecycle) (item : Json) : Checked PreparedQueryOperand := do
  let invalid := lifecycle.preparationFailure "query operand is invalid"
  let fields ← members invalid item
  Checked.require (hasKeys fields ["ciphertext_id","values"] = true) invalid
  match fields.lookup "ciphertext_id" with
  | some (.str ciphertextId) => do
    Checked.require (lifecycle.acceptsId ciphertextId = true) invalid
    let values ← strictValues lifecycle "query operand" (fields.lookup "values")
    return ⟨ciphertextId,values.map .int⟩
  | _ => .error invalid

structure DecodedF1MOperand where
  ciphertextId : String
  resultId : String
  kind : PreparedF1MKind
  componentId : String
  outputBlockId : String
  values : List ℤ
deriving DecidableEq, Repr

def DecodedF1MOperand.prepared (operand : DecodedF1MOperand) (queryId versionId outputPlanDigest : String) :
    PreparedF1MOperand :=
  ⟨operand.ciphertextId,operand.resultId,operand.kind,queryId,versionId,outputPlanDigest,operand.componentId,
    operand.outputBlockId,operand.values⟩

def decodeF1MOperand (lifecycle : Lifecycle) (item : Json) : Checked DecodedF1MOperand := do
  let invalid := lifecycle.preparationFailure "F1-M operand is invalid"
  let fields ← members invalid item
  Checked.require (hasKeys fields ["ciphertext_id","component_id","kind","output_block_id","result_id",
    "values"] = true) invalid
  match fields.lookup "ciphertext_id",fields.lookup "component_id",fields.lookup "kind",
    fields.lookup "output_block_id",fields.lookup "result_id" with
  | some (.str ciphertextId),some (.str componentId),some (.str kind),some (.str outputBlockId),
    some (.str resultId) => do
    Checked.require (lifecycle.acceptsId ciphertextId = true ∧ lifecycle.acceptsId componentId = true ∧
      lifecycle.acceptsId outputBlockId = true ∧ lifecycle.acceptsId resultId = true) invalid
    match lifecycle.kinds.find? fun known => known.text = kind with
    | none => .error invalid
    | some known => do
      let values ← strictValues lifecycle "F1-M operand" (fields.lookup "values")
      return ⟨ciphertextId,resultId,known,componentId,outputBlockId,values⟩
  | _,_,_,_,_ => .error invalid

structure PreparationHeader where
  versionId : String
  modulus : ℤ
  cloudProgramDigest : String
  outputPlanDigest : String
  executionBindingDigest : String
  privatePlanDigest : String
  ledgerCommitmentToken : String
deriving DecidableEq, Repr

def isText (value : Option Json) (text : String) : Bool :=
  match value with
  | some (.str held) => held == text
  | _ => false

/-- `type(value).__name__` of a loaded value. -/
def typeName : Option Json → String
  | none | some .null => "NoneType"
  | some (.bool _) => "bool"
  | some (.int _) => "int"
  | some (.str _) => "str"
  | some (.arr _) => "list"
  | some (.obj _) => "dict"

/-- What `_validate_prepared` raises for a header with a field of another type. The ordinary one matches
the token against its pattern before it looks at its type. -/
def headerFailure (lifecycle : Lifecycle) (bound : BoundQuery) (queryId : String)
    (fields bindings : List (String × Json)) : Failure :=
  let token := fields.lookup "ledger_commitment_token"
  if lifecycle = .ordinary ∧ validId queryId = true ∧ validId bound.versionId = true ∧
      isText (fields.lookup "version_id") bound.versionId = true ∧
      isText (bindings.lookup "cloud_program_digest") bound.cloudProgramDigest = true ∧
      isText (bindings.lookup "output_plan_digest") bound.outputPlanDigest = true ∧
      isText (bindings.lookup "execution_binding_digest") bound.executionBindingDigest = true ∧
      isText (bindings.lookup "private_plan_digest") bound.privatePlanDigest = true ∧ typeName token ≠ "str" then
    ⟨.typeError,"expected string or bytes-like object, got " ++ quoted (typeName token)⟩
  else lifecycle.bindingFailure

def decodeHeader (lifecycle : Lifecycle) (bound : BoundQuery) (queryId : String)
    (fields bindings : List (String × Json)) : Checked PreparationHeader :=
  match fields.lookup "version_id",fields.lookup "modulus",fields.lookup "ledger_commitment_token",
    bindings.lookup "cloud_program_digest",bindings.lookup "output_plan_digest",
    bindings.lookup "execution_binding_digest",bindings.lookup "private_plan_digest" with
  | some (.str versionId),some (.int modulus),some (.str token),some (.str cloudProgram),
    some (.str outputPlan),some (.str executionBinding),some (.str privatePlan) =>
    .ok ⟨versionId,modulus,cloudProgram,outputPlan,executionBinding,privatePlan,token⟩
  | _,_,_,_,_,_,_ => .error (headerFailure lifecycle bound queryId fields bindings)

/-- The members of a document: its bindings, its query operands and its F1M operands. -/
def decodeMembers (lifecycle : Lifecycle) (queryId : String) (fields : List (String × Json)) :
    Checked (List (String × Json) × List Json × List Json) :=
  let target := lifecycle.preparationFailure "differs from its expected replay target"
  match fields.lookup "bindings",fields.lookup "query_operands",fields.lookup "f1m_operands" with
  | some (.obj bindings),some (.arr queryOperands),some (.arr f1mOperands) => do
    Checked.require (hasKeys bindings ["cloud_program_digest","execution_binding_digest","output_plan_digest",
      "private_plan_digest"] = true ∧ isText (fields.lookup "query_id") queryId = true) target
    return (bindings,queryOperands,f1mOperands)
  | _,_,_ => .error target

/-- `_decode_…_preparation_bytes_for_validated_bundle`. -/
def decodePreparation (lifecycle : Lifecycle) (bound : BoundQuery) (content : List UInt8)
    (expectedQueryId : String) (expectedVector : List ℤ) : Checked PreparedQuery := do
  let payload ← decodeText lifecycle content
  let fields ← members (lifecycle.preparationFailure "is not one canonical object") payload
  Checked.require (payload.canonicalBytes = content) (lifecycle.preparationFailure "is not one canonical object")
  Checked.require (hasKeys fields ["bindings","f1m_operands","format","ledger_commitment_token","modulus",
      "query_id","query_operands","version_id"] = true ∧ isText (fields.lookup "format") lifecycle.schema = true)
    (lifecycle.preparationFailure "does not match its closed schema")
  let (bindings,queryItems,f1mItems) ← decodeMembers lifecycle expectedQueryId fields
  let queryOperands ← queryItems.mapM (decodeQueryOperand lifecycle)
  let f1mOperands ← f1mItems.mapM (decodeF1MOperand lifecycle)
  Checked.require (expectedVector.length = bound.cols) (lifecycle.vectorFailure bound.cols)
  let header ← decodeHeader lifecycle bound expectedQueryId fields bindings
  let prepared : PreparedQuery := {
    queryId := expectedQueryId
    versionId := header.versionId
    modulus := header.modulus
    vector := expectedVector
    cloudProgramDigest := header.cloudProgramDigest
    outputPlanDigest := header.outputPlanDigest
    executionBindingDigest := header.executionBindingDigest
    privatePlanDigest := header.privatePlanDigest
    ledgerCommitmentToken := header.ledgerCommitmentToken
    queryOperands := queryOperands
    f1mOperands := f1mOperands.map fun operand =>
      operand.prepared expectedQueryId header.versionId header.outputPlanDigest }
  validatePrepared lifecycle bound prepared
  Checked.require (preparationBytes lifecycle prepared = content) (match lifecycle with
    | .strong => lifecycle.failure "decoded strong query preparation does not round-trip exactly"
    | .ordinary => lifecycle.failure "decoded ordinary query preparation does not round-trip exactly")
  return prepared

end DynamicCssc
