import DynamicCssc.Failure
import DynamicCssc.Foundation.Json

/-! The typed cloud program: a straight line of nodes over named ciphertexts, its validator and
its canonical payload. -/
namespace DynamicCssc
open Foundation

inductive CiphertextRole
  | value
  | query
  | f1mMask
deriving DecidableEq, Repr

def CiphertextRole.text : CiphertextRole → String
  | .value => "value"
  | .query => "query"
  | .f1mMask => "f1m-mask"

structure CiphertextInput where
  ciphertextId : String
  role : CiphertextRole
  length : ℕ
deriving DecidableEq, Repr

/-- The only role is `selection`. -/
structure PlaintextMask where
  maskId : String
  length : ℕ
  values : List ℤ
deriving DecidableEq, Repr

inductive CloudNode
  | multiplyCiphertexts (resultId leftId rightId : String)
  | relinearize (resultId ciphertextId : String)
  | rotate (resultId ciphertextId : String) (logicalShift openfheIndex : ℤ)
  | multiplyPlaintextMask (resultId ciphertextId maskId : String)
  | addCiphertexts (resultId leftId rightId : String)
  | addF1MMask (resultId ciphertextId maskCiphertextId maskRole : String)
  | returnResult (resultId ciphertextId : String)
deriving DecidableEq, Repr

structure CloudProgram where
  format : String
  slotCount : ℕ
  ciphertextInputs : List CiphertextInput
  plaintextMasks : List PlaintextMask
  nodes : List CloudNode
  resultIds : List String
  rotationCatalog : List (ℤ × ℤ)
deriving DecidableEq, Repr

structure ExecutionBinding where
  format : String
  versionId : String
  outputPlanDigest : String
  cloudProgramDigest : String
deriving DecidableEq, Repr

structure CloudExecutionPlan where
  program : CloudProgram
  binding : ExecutionBinding
deriving DecidableEq, Repr

structure CloudPlanCounts where
  ciphertextInputs : ℕ
  ciphertextInputsByRole : List (String × ℕ)
  plaintextMasks : ℕ
  multiplyCiphertexts : ℕ
  relinearizations : ℕ
  rotations : ℕ
  rotationsByExactIndex : List (ℤ × ℕ)
  multiplyPlaintextMasks : ℕ
  addCiphertexts : ℕ
  addF1MMasks : ℕ
  returnedCiphertexts : ℕ
deriving DecidableEq, Repr

def cloudProgramFormat : String := "dynamic-cssc-cloud-program-v1"
def executionBindingFormat : String := "dynamic-cssc-execution-binding-v1"
def opaqueZeroSum : String := "opaque-zero-sum"

namespace CloudNode

def resultId : CloudNode → String
  | .multiplyCiphertexts resultId _ _ | .relinearize resultId _ | .rotate resultId _ _ _
  | .multiplyPlaintextMask resultId _ _ | .addCiphertexts resultId _ _
  | .addF1MMask resultId _ _ _ | .returnResult resultId _ => resultId

/-- `dependencies[result_id]`; a returned result has none. -/
def dependencies : CloudNode → List String
  | .multiplyCiphertexts _ leftId rightId | .addCiphertexts _ leftId rightId => [leftId,rightId]
  | .relinearize _ ciphertextId | .rotate _ ciphertextId _ _ => [ciphertextId]
  | .multiplyPlaintextMask _ ciphertextId maskId => [ciphertextId,maskId]
  | .addF1MMask _ ciphertextId maskCiphertextId _ => [ciphertextId,maskCiphertextId]
  | .returnResult _ _ => []

def isMultiply : CloudNode → Bool
  | .multiplyCiphertexts _ _ _ => true
  | _ => false

def isRelinearize : CloudNode → Bool
  | .relinearize _ _ => true
  | _ => false

def isRotate : CloudNode → Bool
  | .rotate _ _ _ _ => true
  | _ => false

def isMultiplyPlain : CloudNode → Bool
  | .multiplyPlaintextMask _ _ _ => true
  | _ => false

def isAdd : CloudNode → Bool
  | .addCiphertexts _ _ _ => true
  | _ => false

def isAddF1M : CloudNode → Bool
  | .addF1MMask _ _ _ _ => true
  | _ => false

def isReturn : CloudNode → Bool
  | .returnResult _ _ => true
  | _ => false

end CloudNode

namespace CloudProgram

def cloudError (message : String) : Failure := ⟨.cloudExecutionPlanError,message⟩

def duplicateId : Failure := cloudError "all operand and SSA identifiers must be unique"

def validateRotationCatalog (entries : List (ℤ × ℤ)) : Checked Unit :=
  Checked.eachDistinct (Prod.fst : ℤ × ℤ → ℤ)
    (fun entry => do
      Checked.require (entry.1 ≠ 0) (cloudError "logical_shift must be a non-zero integer")
      Checked.require (entry.2 ≠ 0) (cloudError "openfhe_index must be a non-zero integer"))
    (cloudError "rotation catalog logical shifts must be unique") (fun _ => .ok ()) [] entries

/-- What the loops of `_validate_cloud_program` have seen: the declared ids, the ciphertexts with
their length and role (none for a computed one), the masks, and the nodes so far. -/
structure Scan where
  declared : List String
  ciphertexts : List (String × ℕ × Option CiphertextRole)
  masks : List (String × ℕ)
  nodes : List CloudNode

def scanInput (slotCount : ℕ) (scan : Scan) (operand : CiphertextInput) : Checked Scan := do
  requireId .cloudExecutionPlanError operand.ciphertextId "ciphertext_id"
  Checked.require (operand.ciphertextId ∉ scan.declared) duplicateId
  Checked.require (0 < operand.length)
    (cloudError "ciphertext input length must be a positive integer")
  Checked.require (operand.length = slotCount)
    (cloudError "ciphertext input length must equal slot_count")
  return { scan with
    declared := operand.ciphertextId :: scan.declared
    ciphertexts := (operand.ciphertextId,operand.length,some operand.role) :: scan.ciphertexts }

def scanMask (slotCount : ℕ) (scan : Scan) (operand : PlaintextMask) : Checked Scan := do
  requireId .cloudExecutionPlanError operand.maskId "mask_id"
  Checked.require (operand.maskId ∉ scan.declared) duplicateId
  Checked.require (0 < operand.length) (cloudError "plaintext mask length must be a positive integer")
  Checked.require (operand.length = slotCount)
    (cloudError "plaintext mask length must equal slot_count")
  Checked.require (operand.values.length = operand.length)
    (cloudError "plaintext mask values length must equal length")
  Checked.require (∀ value ∈ operand.values, value = 0 ∨ value = 1)
    (cloudError "selection plaintext mask values must be strict 0/1")
  return { scan with
    declared := operand.maskId :: scan.declared
    masks := (operand.maskId,operand.length) :: scan.masks }

def requireCiphertext (scan : Scan) (ciphertextId field : String) :
    Checked (ℕ × Option CiphertextRole) := do
  requireId .cloudExecutionPlanError ciphertextId field
  match scan.ciphertexts.lookup ciphertextId with
  | some entry => return entry
  | none => .error (cloudError (field ++ " must reference a previously defined ciphertext"))

def defineResult (scan : Scan) (length : ℕ) (node : CloudNode) : Checked Scan := do
  requireId .cloudExecutionPlanError node.resultId "result_id"
  Checked.require (node.resultId ∉ scan.declared) duplicateId
  return { scan with
    declared := node.resultId :: scan.declared
    ciphertexts := (node.resultId,length,none) :: scan.ciphertexts
    nodes := scan.nodes ++ [node] }

/-- `node_by_result.get(ciphertext_id)`. -/
def producer (nodes : List CloudNode) (ciphertextId : String) : Option CloudNode :=
  nodes.find? fun node => !node.isReturn && node.resultId == ciphertextId

/-- A result that needs no mask must be one of these. -/
def isFinal (node : CloudNode) : Bool :=
  node.isRelinearize || node.isMultiplyPlain || node.isAdd

/-- The body of the loop over the nodes. `required` is `required_masked_result_ids`. -/
def scanNode (catalog : List (ℤ × ℤ)) (required : Option (List String)) (scan : Scan)
    (node : CloudNode) : Checked Scan :=
  match node with
  | .multiplyCiphertexts _ leftId rightId => do
    let left ← requireCiphertext scan leftId "left_id"
    let right ← requireCiphertext scan rightId "right_id"
    Checked.require (left.1 = right.1) (cloudError "ciphertext multiplication lengths must match")
    Checked.require ((left.2 = some .value ∧ right.2 = some .query) ∨
        (left.2 = some .query ∧ right.2 = some .value))
      (cloudError "MultiplyCiphertexts operands must have value and query roles")
    defineResult scan left.1 node
  | .relinearize _ ciphertextId => do
    let source ← requireCiphertext scan ciphertextId "ciphertext_id"
    Checked.require ((producer scan.nodes ciphertextId).any CloudNode.isMultiply = true)
      (cloudError "Relinearize input must be a direct MultiplyCiphertexts result")
    defineResult scan source.1 node
  | .rotate _ ciphertextId logicalShift openfheIndex => do
    let source ← requireCiphertext scan ciphertextId "ciphertext_id"
    Checked.require (logicalShift ≠ 0) (cloudError "Rotate.logical_shift must be a non-zero integer")
    Checked.require (openfheIndex ≠ 0) (cloudError "Rotate.openfhe_index must be a non-zero integer")
    Checked.require (catalog.lookup logicalShift = some openfheIndex)
      (cloudError "Rotate must use the exact logical-shift/OpenFHE-index catalog entry")
    defineResult scan source.1 node
  | .multiplyPlaintextMask _ ciphertextId maskId => do
    let source ← requireCiphertext scan ciphertextId "ciphertext_id"
    requireId .cloudExecutionPlanError maskId "mask_id"
    match scan.masks.lookup maskId with
    | none => .error (cloudError "mask_id must reference a declared plaintext mask")
    | some length =>
      Checked.require (length = source.1)
        (cloudError "ciphertext and plaintext mask lengths must match")
      defineResult scan source.1 node
  | .addCiphertexts _ leftId rightId => do
    let left ← requireCiphertext scan leftId "left_id"
    let right ← requireCiphertext scan rightId "right_id"
    Checked.require (left.1 = right.1) (cloudError "ciphertext addition lengths must match")
    defineResult scan left.1 node
  | .addF1MMask _ ciphertextId maskCiphertextId maskRole => do
    let source ← requireCiphertext scan ciphertextId "ciphertext_id"
    let mask ← requireCiphertext scan maskCiphertextId "mask_ciphertext_id"
    Checked.require (mask.2 = some .f1mMask)
      (cloudError "mask_ciphertext_id must reference an f1m-mask ciphertext input")
    Checked.require (maskRole = opaqueZeroSum) (cloudError "AddF1MMask has an unsupported mask role")
    Checked.require (source.1 = mask.1) (cloudError "result and F1M mask lengths must match")
    defineResult scan source.1 node
  | .returnResult resultId ciphertextId => do
    requireId .cloudExecutionPlanError resultId "result_id"
    let _ ← requireCiphertext scan ciphertextId "ciphertext_id"
    Checked.require (resultId ∉ scan.declared) duplicateId
    let produced := producer scan.nodes ciphertextId
    let requiresMask : Bool := required.all fun ids => decide (resultId ∈ ids)
    Checked.require (requiresMask = true → produced.any CloudNode.isAddF1M = true)
      (cloudError (if required.isNone
        then "each ReturnResult must directly return one AddF1MMask result"
        else "each required result must directly return one AddF1MMask result"))
    Checked.require (requiresMask = false → produced.any CloudNode.isAddF1M = false)
      (cloudError "a nonrequired result must not add an F1M mask")
    Checked.require (requiresMask = false → produced.any isFinal = true)
      (cloudError "an unmasked result must return a final evaluated ciphertext")
    return { scan with
      declared := resultId :: scan.declared
      nodes := scan.nodes ++ [node] }

/-- `consumers[id]`: the nodes that depend on an id, once for each dependency. -/
def consumers (nodes : List CloudNode) (id : String) : List CloudNode :=
  nodes.flatMap fun node => (node.dependencies.filter fun dependency => dependency = id).map fun _ => node

/-- An id has one consumer, and it is of the given sort. -/
def onlyConsumer (nodes : List CloudNode) (id : String) (sort : CloudNode → Bool) : Bool :=
  match consumers nodes id with
  | [node] => sort node
  | _ => false

def returnNodes (nodes : List CloudNode) : List (String × String) :=
  nodes.filterMap fun node =>
    match node with
    | .returnResult resultId ciphertextId => some (resultId,ciphertextId)
    | _ => none

/-- `node_by_result`, as a list. -/
def computed (nodes : List CloudNode) : List CloudNode := nodes.filter fun node => !node.isReturn

/-- The liveness worklist, popped from its end; the fuel bounds the number of pops. -/
def liveLoop (nodes : List CloudNode) : ℕ → List String → List String → List String
  | 0, live, _ => live
  | fuel + 1, live, worklist =>
    match worklist.getLast? with
    | none => live
    | some resultId =>
      let dependencies := ((producer nodes resultId).map CloudNode.dependencies).getD []
      let fresh := (dependencies.filter fun dependency =>
        (producer nodes dependency).isSome && !live.contains dependency).dedup
      liveLoop nodes fuel (live ++ fresh) (worklist.dropLast ++ fresh)

/-- `live_ids` after the worklist ran dry. -/
def liveIds (nodes : List CloudNode) : List String :=
  let roots := ((returnNodes nodes).map Prod.snd).dedup
  liveLoop nodes (roots.length + nodes.length) roots roots

def maskCiphertext : CloudNode → Option String
  | .addF1MMask _ _ maskCiphertextId _ => some maskCiphertextId
  | _ => none

/-- The checks of `required_masked_result_ids` itself. -/
def validateRequired (program : CloudProgram) : Option (List String) → Checked Unit
  | none => .ok ()
  | some ids => do
    Checked.each (fun id => requireId .cloudExecutionPlanError id "required masked result ID") ids
    Checked.require (∀ id ∈ ids, id ∈ program.resultIds)
      (cloudError "required masked result IDs must be a subset of returned result IDs")

/-- The checks after the loop over the nodes. -/
def validateWhole (program : CloudProgram) (required : Option (List String)) : Checked Unit := do
  Checked.each (fun resultId => requireId .cloudExecutionPlanError resultId "result_ids entry")
    program.resultIds
  Checked.require (program.resultIds = (returnNodes program.nodes).map Prod.fst)
    (cloudError "result_ids must exactly match ReturnResult identifiers in program order")
  validateRequired program required
  Checked.require (∀ node ∈ program.nodes, node.isAddF1M = true →
      ((returnNodes program.nodes).map Prod.snd).count node.resultId = 1)
    (cloudError "each AddF1MMask result must be returned exactly once")
  Checked.require (∀ operand ∈ program.ciphertextInputs, operand.role = .f1mMask →
      (program.nodes.filterMap maskCiphertext).count operand.ciphertextId = 1)
    (cloudError "each F1M mask operand must be consumed exactly once")
  Checked.each (fun operand => do
      Checked.require (operand.role ≠ .f1mMask →
          onlyConsumer program.nodes operand.ciphertextId CloudNode.isMultiply = true)
        (cloudError "value and query operands must each be consumed by one MultiplyCiphertexts node")
      Checked.require (operand.role = .f1mMask →
          onlyConsumer program.nodes operand.ciphertextId
            (fun node => maskCiphertext node = some operand.ciphertextId) = true)
        (cloudError "F1M mask operands may only be consumed as one AddF1MMask mask operand"))
    program.ciphertextInputs
  Checked.require (∀ node ∈ program.nodes, node.isMultiply = true →
      onlyConsumer program.nodes node.resultId CloudNode.isRelinearize = true)
    (cloudError "each MultiplyCiphertexts result must feed one direct Relinearize")
  Checked.require (∀ node ∈ computed program.nodes, node.resultId ∈ liveIds program.nodes)
    (cloudError "every computation node must contribute to a returned result")
  Checked.require (∀ id ∈ program.ciphertextInputs.map CiphertextInput.ciphertextId ++
      program.plaintextMasks.map PlaintextMask.maskId,
      ∃ node ∈ program.nodes, id ∈ node.dependencies)
    (cloudError "every declared operand must contribute to a returned result")

/-- `_validate_cloud_program`; `none` asks for a mask on every result. -/
def validate (program : CloudProgram) (required : Option (List String)) : Checked Unit := do
  Checked.require (program.format = cloudProgramFormat)
    (cloudError ("program format must be " ++ cloudProgramFormat))
  Checked.require (0 < program.slotCount) (cloudError "slot_count must be a positive integer")
  validateRotationCatalog program.rotationCatalog
  let scan ← program.ciphertextInputs.foldlM (scanInput program.slotCount) ⟨[],[],[],[]⟩
  let scan ← program.plaintextMasks.foldlM (scanMask program.slotCount) scan
  let _ ← program.nodes.foldlM (scanNode program.rotationCatalog required) scan
  validateWhole program required

def maskedReturnResultIds (program : CloudProgram) : List String :=
  let f1mResults := (program.nodes.filter CloudNode.isAddF1M).map CloudNode.resultId
  ((returnNodes program.nodes).filter fun entry => entry.2 ∈ f1mResults).map Prod.fst

def nodePayload : CloudNode → Json
  | .multiplyCiphertexts resultId leftId rightId => Json.object [("left_id",.str leftId),
      ("op",.str "multiply-ciphertexts"),("result_id",.str resultId),("right_id",.str rightId)]
  | .relinearize resultId ciphertextId => Json.object [("ciphertext_id",.str ciphertextId),
      ("op",.str "relinearize"),("result_id",.str resultId)]
  | .rotate resultId ciphertextId logicalShift openfheIndex => Json.object [
      ("ciphertext_id",.str ciphertextId),("logical_shift",.int logicalShift),
      ("openfhe_index",.int openfheIndex),("op",.str "rotate"),("result_id",.str resultId)]
  | .multiplyPlaintextMask resultId ciphertextId maskId => Json.object [
      ("ciphertext_id",.str ciphertextId),("mask_id",.str maskId),
      ("op",.str "multiply-plaintext-mask"),("result_id",.str resultId)]
  | .addCiphertexts resultId leftId rightId => Json.object [("left_id",.str leftId),
      ("op",.str "add-ciphertexts"),("result_id",.str resultId),("right_id",.str rightId)]
  | .addF1MMask resultId ciphertextId maskCiphertextId maskRole => Json.object [
      ("ciphertext_id",.str ciphertextId),("mask_ciphertext_id",.str maskCiphertextId),
      ("mask_role",.str maskRole),("op",.str "add-f1m-mask"),("result_id",.str resultId)]
  | .returnResult resultId ciphertextId => Json.object [("ciphertext_id",.str ciphertextId),
      ("op",.str "return-result"),("result_id",.str resultId)]

/-- `canonical_cloud_program_payload`, behind its own validation. -/
def canonicalPayload (program : CloudProgram) : Checked Json := do
  validate program (some (maskedReturnResultIds program))
  return Json.object [
    ("ciphertext_inputs",.arr ((Sorting.sortedBy CiphertextInput.ciphertextId
      program.ciphertextInputs).map fun operand => Json.object [
        ("ciphertext_id",.str operand.ciphertextId),("length",.nat operand.length),
        ("role",.str operand.role.text)])),
    ("format",.str program.format),
    ("nodes",.arr (program.nodes.map nodePayload)),
    ("plaintext_masks",.arr ((Sorting.sortedBy PlaintextMask.maskId program.plaintextMasks).map
      fun operand => Json.object [("length",.nat operand.length),("mask_id",.str operand.maskId),
        ("role",.str "selection"),("values",.ints operand.values)])),
    ("result_ids",.arr (program.resultIds.map Json.str)),
    ("rotation_catalog",.arr ((Sorting.sortedBy toLex program.rotationCatalog).map fun entry =>
      Json.object [("logical_shift",.int entry.1),("openfhe_index",.int entry.2)])),
    ("slot_count",.nat program.slotCount)]

/-- `cloud_program_digest`. -/
def digest (sha : Sha256) (program : CloudProgram) : Checked String := do
  let payload ← canonicalPayload program
  return sha.hexdigest (Json.dumps true payload)

end CloudProgram

def validateExecutionBinding (binding : ExecutionBinding) : Checked Unit := do
  Checked.require (binding.format = executionBindingFormat)
    (CloudProgram.cloudError ("binding format must be " ++ executionBindingFormat))
  requireId .cloudExecutionPlanError binding.versionId "version_id"
  Checked.require (validSha256 binding.outputPlanDigest = true)
    (CloudProgram.cloudError "output_plan_digest must be a lowercase SHA-256 hex digest")
  Checked.require (validSha256 binding.cloudProgramDigest = true)
    (CloudProgram.cloudError "cloud_program_digest must be a lowercase SHA-256 hex digest")

def executionBindingDigest (sha : Sha256) (binding : ExecutionBinding) : Checked String := do
  validateExecutionBinding binding
  return sha.hexdigest (Json.dumps true (Json.object [
    ("cloud_program_digest",.str binding.cloudProgramDigest),("format",.str binding.format),
    ("output_plan_digest",.str binding.outputPlanDigest),("version_id",.str binding.versionId)]))

/-- `validate_cloud_execution_plan` for `none`, else
`_validate_cloud_execution_plan_with_masked_results`. -/
def validateCloudExecutionPlan (sha : Sha256) (plan : CloudExecutionPlan)
    (required : Option (List String)) : Checked Unit := do
  plan.program.validate required
  validateExecutionBinding plan.binding
  let digest ← plan.program.digest sha
  Checked.require (plan.binding.cloudProgramDigest = digest)
    (CloudProgram.cloudError "binding cloud_program_digest does not match the canonical program")

/-- `tuple(sorted(Counter(items).items()))`. -/
def sortedCounts {α : Type} [LinearOrder α] (items : List α) : List (α × ℕ) :=
  (Sorting.sortedSet id items).map fun item => (item,items.count item)

def analyzeCloudPlan (sha : Sha256) (plan : CloudExecutionPlan) : Checked CloudPlanCounts := do
  validateCloudExecutionPlan sha plan (some plan.program.maskedReturnResultIds)
  let nodes := plan.program.nodes
  return {
    ciphertextInputs := plan.program.ciphertextInputs.length
    ciphertextInputsByRole := sortedCounts (plan.program.ciphertextInputs.map fun operand =>
      operand.role.text)
    plaintextMasks := plan.program.plaintextMasks.length
    multiplyCiphertexts := nodes.countP CloudNode.isMultiply
    relinearizations := nodes.countP CloudNode.isRelinearize
    rotations := nodes.countP CloudNode.isRotate
    rotationsByExactIndex := sortedCounts (nodes.filterMap fun node =>
      match node with
      | .rotate _ _ _ openfheIndex => some openfheIndex
      | _ => none)
    multiplyPlaintextMasks := nodes.countP CloudNode.isMultiplyPlain
    addCiphertexts := nodes.countP CloudNode.isAdd
    addF1MMasks := nodes.countP CloudNode.isAddF1M
    returnedCiphertexts := nodes.countP CloudNode.isReturn }

end DynamicCssc
