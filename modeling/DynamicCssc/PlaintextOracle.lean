import DynamicCssc.Cssc
import DynamicCssc.CloudProgram
import DynamicCssc.Foundation.Dict
import DynamicCssc.Foundation.Residues

/-! The plaintext oracle: a cloud program run on vectors of integers modulo a plaintext modulus.
A mapping is the list of its entries. -/
namespace DynamicCssc.PlaintextOracle
open Foundation

abbrev Vectors := List (String × List ℤ)

def oracleError (message : String) : Failure := ⟨.valueError,message⟩

/-- `repr` of a string of printable ASCII characters. -/
def quoted (text : String) : String :=
  let single := Char.ofNat 39
  let double := Char.ofNat 34
  let backslash := Char.ofNat 92
  let quote := if text.toList.contains single && !text.toList.contains double then double else single
  String.ofList (quote :: (text.toList.flatMap fun character =>
    if character = quote ∨ character = backslash then [backslash,character] else [character]) ++ [quote])

def vector (values : List ℤ) (length : ℕ) (field : String) : Checked (List ℤ) := do
  Checked.require (values.length = length)
    (oracleError (field ++ " must have length " ++ Nat.repr length))
  return values

/-- `table[id]`. -/
def read (table : Vectors) (id : String) : Checked (List ℤ) :=
  match table.lookup id with
  | some values => .ok values
  | none => .error ⟨.keyError,quoted id⟩

def reduced (modulus : ℕ) (values : List ℤ) : List ℤ := values.map fun value => value % modulus

def pointwise (operation : ℤ → ℤ → ℤ) (modulus : ℕ) (left right : List ℤ) : Checked (List ℤ) := do
  let pairs ← zipStrict left right
  return pairs.map fun pair => operation pair.1 pair.2 % modulus

/-- `source[(lane + index) % len(source)]` for every lane. -/
def rotated (index : ℤ) (source : List ℤ) : List ℤ :=
  (List.range source.length).map fun lane : ℕ =>
    source.getD (((lane : ℤ) + index) % (source.length : ℤ)).toNat 0

/-- The variables `ciphertexts` and `results`. -/
structure Execution where
  ciphertexts : Vectors
  results : Vectors

def Execution.define (state : Execution) (resultId : String) (values : List ℤ) : Execution :=
  { state with ciphertexts := Dict.set resultId values state.ciphertexts }

/-- The body of the loop over the nodes. -/
def executeNode (rotations : List (ℤ × ℤ)) (masks : Vectors) (modulus : ℕ) (state : Execution)
    (node : CloudNode) : Checked Execution :=
  match node with
  | .multiplyCiphertexts resultId leftId rightId => do
    let left ← read state.ciphertexts leftId
    let right ← read state.ciphertexts rightId
    let product ← pointwise (· * ·) modulus left right
    return state.define resultId product
  | .relinearize resultId ciphertextId => do
    let source ← read state.ciphertexts ciphertextId
    return state.define resultId source
  | .rotate resultId ciphertextId logicalShift openfheIndex => do
    Checked.require (rotations.lookup logicalShift = some openfheIndex)
      (oracleError "rotation does not match the plan's exact catalog")
    let source ← read state.ciphertexts ciphertextId
    return state.define resultId (rotated openfheIndex source)
  | .multiplyPlaintextMask resultId ciphertextId maskId => do
    let source ← read state.ciphertexts ciphertextId
    let mask ← read masks maskId
    let product ← pointwise (· * ·) modulus source mask
    return state.define resultId product
  | .addCiphertexts resultId leftId rightId => do
    let left ← read state.ciphertexts leftId
    let right ← read state.ciphertexts rightId
    let total ← pointwise (· + ·) modulus left right
    return state.define resultId total
  | .addF1MMask resultId ciphertextId maskCiphertextId _ => do
    let source ← read state.ciphertexts ciphertextId
    let mask ← read state.ciphertexts maskCiphertextId
    let total ← pointwise (· + ·) modulus source mask
    return state.define resultId total
  | .returnResult resultId ciphertextId => do
    let values ← read state.ciphertexts ciphertextId
    return { state with results := Dict.set resultId values state.results }

/-- The comprehension behind `ciphertexts`. -/
def loadCiphertexts (program : CloudProgram) (ciphertextInputs : Vectors) (modulus : ℕ) :
    Checked Vectors :=
  program.ciphertextInputs.foldlM (fun table operand => do
    let supplied ← read ciphertextInputs operand.ciphertextId
    let values ← vector supplied operand.length ("ciphertext input " ++ quoted operand.ciphertextId)
    return Dict.set operand.ciphertextId (reduced modulus values) table) []

/-- The loop that fills `masks`. -/
def loadMasks (program : CloudProgram) (plaintextMasks : Vectors) (modulus : ℕ) : Checked Vectors :=
  program.plaintextMasks.foldlM (fun table operand => do
    let supplied ← read plaintextMasks operand.maskId
    let values ← vector supplied operand.length ("plaintext mask " ++ quoted operand.maskId)
    Checked.require (values = operand.values)
      (oracleError "supplied values must equal the committed plaintext mask")
    return Dict.set operand.maskId (reduced modulus values) table) []

/-- `set(supplied) == expected`. -/
def SameIds (supplied : Vectors) (expected : List String) : Prop :=
  (∀ id ∈ supplied.map Prod.fst, id ∈ expected) ∧ ∀ id ∈ expected, id ∈ supplied.map Prod.fst

instance SameIds.decidable (supplied : Vectors) (expected : List String) :
    Decidable (SameIds supplied expected) := instDecidableAnd

/-- `dict(entries)`. -/
def rotationTable (entries : List (ℤ × ℤ)) : List (ℤ × ℤ) :=
  entries.foldl (fun table entry => Dict.set entry.1 entry.2 table) []

/-- What precedes the loop over the nodes: its start, and the masks. -/
def prepare (program : CloudProgram) (ciphertextInputs plaintextMasks : Vectors) (modulus : ℕ) :
    Checked (Execution × Vectors) := do
  Checked.require (∀ entry ∈ program.rotationCatalog, entry.2.natAbs < program.slotCount)
    (oracleError "single-effective-row v1 rotation index is outside the slot range")
  Checked.require (SameIds ciphertextInputs (program.ciphertextInputs.map CiphertextInput.ciphertextId))
    (oracleError "ciphertext input IDs must exactly match the typed plan")
  Checked.require (SameIds plaintextMasks (program.plaintextMasks.map PlaintextMask.maskId))
    (oracleError "plaintext mask IDs must exactly match the typed plan")
  let ciphertexts ← loadCiphertexts program ciphertextInputs modulus
  let masks ← loadMasks program plaintextMasks modulus
  return (⟨ciphertexts,[]⟩,masks)

def executeValidatedCloudPlan (plan : CloudExecutionPlan) (ciphertextInputs plaintextMasks : Vectors)
    (modulus : ℕ) : Checked Vectors := do
  let (start,masks) ← prepare plan.program ciphertextInputs plaintextMasks modulus
  let final ← plan.program.nodes.foldlM
    (executeNode (rotationTable plan.program.rotationCatalog) masks modulus) start
  return final.results

def validateEntry (rows cols : ℕ) (entry : Coordinate × ℤ) : Checked Unit := do
  Checked.require ((0 ≤ entry.1.row ∧ entry.1.row < rows) ∧ 0 ≤ entry.1.col ∧ entry.1.col < cols)
    (oracleError "matrix coordinate is outside the matrix")
  Checked.require (entry.2 ≠ 0) (oracleError "matrix values must be nonzero strict integers")

def requireModulus (modulus : ℕ) : Checked Unit :=
  Checked.require (2 ≤ modulus) (oracleError "modulus must be a strict integer of at least two")

def directSpmv (matrix : List (Coordinate × ℤ)) (dense : List ℤ) (rows cols modulus : ℕ) :
    Checked (List ℤ) := do
  Checked.require (0 < rows) (oracleError "rows must be a positive strict integer")
  Checked.require (0 < cols) (oracleError "cols must be a positive strict integer")
  requireModulus modulus
  let dense ← vector dense cols "vector"
  matrix.foldlM (fun result entry => do
    validateEntry rows cols entry
    return Residues.addAt modulus result
      (entry.1.row.toNat,entry.2 * dense.getD entry.1.col.toNat 0)) (List.replicate rows 0)

def reconstructOutput (sha : Sha256) (plan : OutputPlan) (returnedShares : List (ShareIdentity × List ℤ))
    (modulus : ℕ) : Checked (List ℤ) := do
  requireModulus modulus
  let _ ← plan.analyzeOutputPlan sha
  let expected := plan.shares.map OutputShare.identity
  Checked.require ((∀ id ∈ returnedShares.map Prod.fst, id ∈ expected) ∧
      ∀ id ∈ expected, id ∈ returnedShares.map Prod.fst)
    (oracleError "returned share identities must exactly match the OutputPlan")
  plan.shares.foldlM (fun result share => do
    -- every share was just found among the returned ones
    let returned := (returnedShares.lookup share.identity).getD []
    let lanes ← vector returned plan.slotCount ("returned share (" ++ quoted share.componentId ++ ", " ++
      quoted share.outputBlockId ++ ")")
    return Residues.addAll modulus result (share.slotToLogical.map fun entry =>
      (entry.2.toNat,lanes.getD entry.1 0))) (List.replicate plan.logicalOutputSize 0)

end DynamicCssc.PlaintextOracle
