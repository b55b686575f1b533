import DynamicCssc.CloudProgram
import DynamicCssc.Foundation.Dict

/-! A program that the validator accepts: every node stands where its operands are, every id is
used the way its role asks, and every computed value flows into a returned one. -/
namespace DynamicCssc
open Foundation

namespace CloudNode

def isPlain (node : CloudNode) : Bool :=
  !(node.isMultiply || node.isAddF1M || node.isReturn)

end CloudNode

namespace CloudProgram

def Produced (before : List CloudNode) (id : String) (sort : CloudNode → Bool) : Prop :=
  ∃ node ∈ before, sort node = true ∧ node.isReturn = false ∧ node.resultId = id

/-- The operands of a node are declared or computed before it. -/
def Placed (inputs : List CiphertextInput) (masks : List PlaintextMask) (shifts : List ℕ)
    (before : List CloudNode) : CloudNode → Prop
  | .multiplyCiphertexts _ leftId rightId =>
      (∃ operand ∈ inputs, operand.ciphertextId = leftId ∧ operand.role = .value) ∧
      ∃ operand ∈ inputs, operand.ciphertextId = rightId ∧ operand.role = .query
  | .relinearize _ ciphertextId => Produced before ciphertextId CloudNode.isMultiply
  | .rotate _ ciphertextId logicalShift openfheIndex => logicalShift = openfheIndex ∧
      (∃ shift ∈ shifts, logicalShift = (shift : ℤ)) ∧ Produced before ciphertextId CloudNode.isPlain
  | .multiplyPlaintextMask _ ciphertextId maskId => (∃ mask ∈ masks, mask.maskId = maskId) ∧
      Produced before ciphertextId CloudNode.isPlain
  | .addCiphertexts _ leftId rightId => Produced before leftId CloudNode.isPlain ∧
      Produced before rightId CloudNode.isPlain
  | .addF1MMask _ ciphertextId maskCiphertextId maskRole => maskRole = opaqueZeroSum ∧
      (∃ operand ∈ inputs, operand.ciphertextId = maskCiphertextId ∧ operand.role = .f1mMask) ∧
      Produced before ciphertextId CloudNode.isPlain
  | .returnResult _ ciphertextId =>
      Produced before ciphertextId fun node => isFinal node || node.isAddF1M

def ids (program : CloudProgram) : List String :=
  program.ciphertextInputs.map CiphertextInput.ciphertextId ++
    program.plaintextMasks.map PlaintextMask.maskId ++ program.nodes.map CloudNode.resultId

/-- Whether the policy asks for a mask on a result. -/
def requiresMask (required : Option (List String)) (resultId : String) : Bool :=
  required.all fun ids => decide (resultId ∈ ids)

/-- The policy asks for a mask on exactly the results that return a masked ciphertext. -/
def Agrees (nodes : List CloudNode) (required : Option (List String)) : Prop :=
  ∀ resultId ciphertextId, CloudNode.returnResult resultId ciphertextId ∈ nodes →
    ∀ node ∈ nodes, node.isReturn = false → node.resultId = ciphertextId →
      node.isAddF1M = requiresMask required resultId

/-- One value flows into another through a computing node. -/
def Feeds (nodes : List CloudNode) (source target : String) : Prop :=
  ∃ node ∈ nodes, node.isReturn = false ∧ node.resultId = target ∧ source ∈ node.dependencies

def Chain (nodes : List CloudNode) : String → String → Prop := Relation.ReflTransGen (Feeds nodes)

/-- A node reads an id, once, and no other node does. -/
def SoleReader (nodes : List CloudNode) (id : String) (sort : CloudNode → Bool) : Prop :=
  ∃ node ∈ nodes, sort node = true ∧ node.dependencies.count id = 1 ∧
    ∀ other ∈ nodes, id ∈ other.dependencies → other = node

structure WellFormed (program : CloudProgram) (shifts : List ℕ) : Prop where
  format : program.format = cloudProgramFormat
  slots_pos : 0 < program.slotCount
  catalog : program.rotationCatalog = (Sorting.sortedSet id shifts).map fun shift : ℕ =>
    ((shift : ℤ),(shift : ℤ))
  shifts_pos : ∀ shift ∈ shifts, 0 < shift
  ids_valid : ∀ id ∈ program.ids, validId id = true
  ids_nodup : program.ids.Nodup
  inputs : ∀ operand ∈ program.ciphertextInputs, operand.length = program.slotCount
  masks : ∀ mask ∈ program.plaintextMasks, mask.length = program.slotCount ∧
    mask.values.length = program.slotCount ∧ ∀ value ∈ mask.values, value = 0 ∨ value = 1
  placed : ∀ before node after, program.nodes = before ++ node :: after →
    Placed program.ciphertextInputs program.plaintextMasks shifts before node
  results : program.resultIds = (returnNodes program.nodes).map Prod.fst
  values_read : ∀ operand ∈ program.ciphertextInputs, operand.role ≠ .f1mMask →
    SoleReader program.nodes operand.ciphertextId CloudNode.isMultiply
  f1m_read : ∀ operand ∈ program.ciphertextInputs, operand.role = .f1mMask →
    SoleReader program.nodes operand.ciphertextId
      fun node => maskCiphertext node = some operand.ciphertextId
  products_read : ∀ node ∈ program.nodes, node.isMultiply = true →
    SoleReader program.nodes node.resultId CloudNode.isRelinearize
  f1m_returned : ∀ node ∈ program.nodes, node.isAddF1M = true →
    ((returnNodes program.nodes).map Prod.snd).count node.resultId = 1
  masks_read : ∀ mask ∈ program.plaintextMasks, ∃ node ∈ program.nodes, mask.maskId ∈ node.dependencies
  live : ∀ node ∈ program.nodes, node.isReturn = false →
    ∃ entry ∈ returnNodes program.nodes, Chain program.nodes node.resultId entry.2

/-! The loops of the validator on such a program. -/

/-- What a scan knows after the nodes in `before`. -/
structure Knows (program : CloudProgram) (before : List CloudNode) (scan : Scan) : Prop where
  declared : ∀ id, id ∈ scan.declared ↔
    id ∈ program.ciphertextInputs.map CiphertextInput.ciphertextId ++
      program.plaintextMasks.map PlaintextMask.maskId ++ before.map CloudNode.resultId
  inputs : ∀ operand ∈ program.ciphertextInputs,
    scan.ciphertexts.lookup operand.ciphertextId = some (program.slotCount,some operand.role)
  computed : ∀ node ∈ before, node.isReturn = false →
    scan.ciphertexts.lookup node.resultId = some (program.slotCount,none)
  masks : ∀ mask ∈ program.plaintextMasks, scan.masks.lookup mask.maskId = some program.slotCount
  nodes : scan.nodes = before

private theorem producer_found (nodes : List CloudNode) (distinct : (nodes.map CloudNode.resultId).Nodup)
    (node : CloudNode) (member : node ∈ nodes) (computes : node.isReturn = false) :
    producer nodes node.resultId = some node := by
  induction nodes with
  | nil => simp at member
  | cons head tail ih =>
    simp only [List.map_cons,List.nodup_cons,List.mem_map,not_exists,not_and] at distinct
    rcases List.mem_cons.mp member with same | later
    · subst same
      simp [producer,computes]
    · have apart : head.resultId ≠ node.resultId := fun same => distinct.1 node later same.symm
      have found := ih distinct.2 later
      simpa [producer,List.find?_cons,apart] using found

private theorem requireCiphertext_ok (scan : Scan) (id field : String) (entry : ℕ × Option CiphertextRole)
    (valid : validId id = true) (found : scan.ciphertexts.lookup id = some entry) :
    requireCiphertext scan id field = .ok entry := by
  rw [requireCiphertext,Checked.then_success,requireId_success]
  simp [valid,found,pure,Except.pure]

private theorem defineResult_ok (scan : Scan) (length : ℕ) (node : CloudNode)
    (valid : validId node.resultId = true) (fresh : node.resultId ∉ scan.declared) :
    defineResult scan length node = .ok { scan with
      declared := node.resultId :: scan.declared
      ciphertexts := (node.resultId,length,none) :: scan.ciphertexts
      nodes := scan.nodes ++ [node] } := by
  rw [defineResult,Checked.then_success,requireId_success]
  refine ⟨valid,?_⟩
  rw [Checked.then_success,Checked.require_success]
  exact ⟨fresh,rfl⟩

private theorem scanInputs_ok (slotCount : ℕ) (positive : 0 < slotCount) (operands : List CiphertextInput)
    (scan : Scan) (valid : ∀ operand ∈ operands, validId operand.ciphertextId = true)
    (lengths : ∀ operand ∈ operands, operand.length = slotCount)
    (distinct : (operands.map CiphertextInput.ciphertextId).Nodup)
    (fresh : ∀ operand ∈ operands, operand.ciphertextId ∉ scan.declared) :
    operands.foldlM (scanInput slotCount) scan = .ok { scan with
      declared := (operands.map CiphertextInput.ciphertextId).reverse ++ scan.declared
      ciphertexts := (operands.map fun operand =>
        (operand.ciphertextId,slotCount,some operand.role)).reverse ++ scan.ciphertexts } := by
  induction operands generalizing scan with
  | nil => rfl
  | cons operand operands ih =>
    simp only [List.map_cons,List.nodup_cons,List.mem_map,not_exists,not_and] at distinct
    have length := lengths operand (by simp)
    have step : scanInput slotCount scan operand = .ok { scan with
        declared := operand.ciphertextId :: scan.declared
        ciphertexts := (operand.ciphertextId,slotCount,some operand.role) :: scan.ciphertexts } := by
      simp only [scanInput,Checked.then_success,requireId_success,Checked.require_success,length]
      exact ⟨valid operand (by simp),fresh operand (by simp),positive,trivial,rfl⟩
    rw [List.foldlM_cons,Checked.bind_success]
    refine ⟨_,step,?_⟩
    rw [ih _ (fun other member => valid other (by simp [member]))
      (fun other member => lengths other (by simp [member])) distinct.2]
    · simp
    · intro other member declared
      rcases List.mem_cons.mp declared with same | old
      · exact distinct.1 other member same
      · exact fresh other (by simp [member]) old

private theorem scanMasks_ok (slotCount : ℕ) (positive : 0 < slotCount) (operands : List PlaintextMask)
    (scan : Scan) (valid : ∀ operand ∈ operands, validId operand.maskId = true)
    (shapes : ∀ mask ∈ operands, mask.length = slotCount ∧ mask.values.length = slotCount ∧
      ∀ value ∈ mask.values, value = 0 ∨ value = 1)
    (distinct : (operands.map PlaintextMask.maskId).Nodup)
    (fresh : ∀ operand ∈ operands, operand.maskId ∉ scan.declared) :
    operands.foldlM (scanMask slotCount) scan = .ok { scan with
      declared := (operands.map PlaintextMask.maskId).reverse ++ scan.declared
      masks := (operands.map fun operand => (operand.maskId,slotCount)).reverse ++ scan.masks } := by
  induction operands generalizing scan with
  | nil => rfl
  | cons operand operands ih =>
    simp only [List.map_cons,List.nodup_cons,List.mem_map,not_exists,not_and] at distinct
    obtain ⟨length,count,values⟩ := shapes operand (by simp)
    have step : scanMask slotCount scan operand = .ok { scan with
        declared := operand.maskId :: scan.declared
        masks := (operand.maskId,slotCount) :: scan.masks } := by
      simp only [scanMask,Checked.then_success,requireId_success,Checked.require_success,length]
      exact ⟨valid operand (by simp),fresh operand (by simp),positive,trivial,count,values,rfl⟩
    rw [List.foldlM_cons,Checked.bind_success]
    refine ⟨_,step,?_⟩
    rw [ih _ (fun other member => valid other (by simp [member]))
      (fun other member => shapes other (by simp [member])) distinct.2]
    · simp
    · intro other member declared
      rcases List.mem_cons.mp declared with same | old
      · exact distinct.1 other member same
      · exact fresh other (by simp [member]) old

theorem Knows.define {program : CloudProgram} {before : List CloudNode} {scan : Scan}
    (knows : Knows program before scan) (node : CloudNode) (fresh : node.resultId ∉ scan.declared) :
    Knows program (before ++ [node]) { scan with
      declared := node.resultId :: scan.declared
      ciphertexts := (node.resultId,program.slotCount,none) :: scan.ciphertexts
      nodes := scan.nodes ++ [node] } := by
  have apart (id : String) (old : id ∈ scan.declared) : (id == node.resultId) = false :=
    beq_eq_false_iff_ne.mpr fun same => fresh (same ▸ old)
  constructor
  · intro id
    rw [List.mem_cons,knows.declared,List.map_append,← List.append_assoc,List.map_singleton]
    generalize program.ciphertextInputs.map CiphertextInput.ciphertextId ++
      program.plaintextMasks.map PlaintextMask.maskId ++ before.map CloudNode.resultId = old
    simp [or_comm]
  · intro operand member
    have old : operand.ciphertextId ∈ scan.declared := by
      rw [knows.declared]
      simp only [List.mem_append,List.mem_map]
      exact .inl (.inl ⟨operand,member,rfl⟩)
    rw [List.lookup_cons,apart _ old]
    exact knows.inputs operand member
  · intro other member computes
    rw [List.lookup_cons]
    rcases List.mem_append.mp member with early | here
    · have old : other.resultId ∈ scan.declared := by
        rw [knows.declared]
        simp only [List.mem_append,List.mem_map]
        exact .inr ⟨other,early,rfl⟩
      rw [apart _ old]
      exact knows.computed other early computes
    · rw [List.mem_singleton.mp here]
      simp
  · exact knows.masks
  · rw [knows.nodes]

theorem Knows.returns {program : CloudProgram} {before : List CloudNode} {scan : Scan}
    (knows : Knows program before scan) (node : CloudNode) (returns : node.isReturn = true) :
    Knows program (before ++ [node]) { scan with
      declared := node.resultId :: scan.declared
      nodes := scan.nodes ++ [node] } := by
  constructor
  · intro id
    rw [List.mem_cons,knows.declared,List.map_append,← List.append_assoc,List.map_singleton]
    generalize program.ciphertextInputs.map CiphertextInput.ciphertextId ++
      program.plaintextMasks.map PlaintextMask.maskId ++ before.map CloudNode.resultId = old
    simp [or_comm]
  · exact knows.inputs
  · intro other member computes
    rcases List.mem_append.mp member with early | here
    · exact knows.computed other early computes
    · rw [List.mem_singleton.mp here,returns] at computes
      cases computes
  · exact knows.masks
  · rw [knows.nodes]

theorem Knows.reads {program : CloudProgram} {before : List CloudNode} {scan : Scan}
    (knows : Knows program before scan) (valid : ∀ id ∈ scan.declared, validId id = true)
    (id field : String) (sort : CloudNode → Bool) (produced : Produced before id sort) :
    requireCiphertext scan id field = .ok (program.slotCount,none) := by
  obtain ⟨node,member,_,computes,rfl⟩ := produced
  refine requireCiphertext_ok scan _ field _ (valid _ ?_) (knows.computed node member computes)
  rw [knows.declared]
  simp only [List.mem_append,List.mem_map]
  exact .inr ⟨node,member,rfl⟩

private theorem Knows.readsInput {program : CloudProgram} {before : List CloudNode} {scan : Scan}
    (knows : Knows program before scan) (valid : ∀ id ∈ scan.declared, validId id = true)
    (field : String) (operand : CiphertextInput) (member : operand ∈ program.ciphertextInputs) :
    requireCiphertext scan operand.ciphertextId field = .ok (program.slotCount,some operand.role) := by
  refine requireCiphertext_ok scan _ field _ (valid _ ?_) (knows.inputs operand member)
  rw [knows.declared]
  simp only [List.mem_append,List.mem_map]
  exact .inl (.inl ⟨operand,member,rfl⟩)

private theorem requireId_ok (kind : ExceptionKind) (value field : String) (valid : validId value = true) :
    requireId kind value field = .ok () := (requireId_success kind value field ()).mpr valid

private theorem catalog_lookup (shifts : List ℕ) (shift : ℕ) (member : shift ∈ shifts) :
    (((Sorting.sortedSet id shifts).map fun shift : ℕ => ((shift : ℤ),(shift : ℤ))).lookup (shift : ℤ)) =
      some (shift : ℤ) := by
  have listed : shift ∈ Sorting.sortedSet id shifts := (Sorting.mem_sortedSet id shifts shift).mpr member
  generalize Sorting.sortedSet id shifts = entries at listed
  induction entries with
  | nil => simp at listed
  | cons head tail ih =>
    by_cases same : shift = head
    · simp [same]
    · have apart : ((shift : ℤ) == (head : ℤ)) = false := by simpa using same
      rw [List.map_cons,List.lookup_cons,apart]
      exact ih ((List.mem_cons.mp listed).resolve_left same)

private theorem scanReturn_ok (program : CloudProgram) (required : Option (List String))
    (agrees : Agrees program.nodes required) (before after : List CloudNode)
    (resultId ciphertextId : String)
    (cut : program.nodes = before ++ .returnResult resultId ciphertextId :: after)
    (distinct : (before.map CloudNode.resultId).Nodup) (scan : Scan) (knows : Knows program before scan)
    (valid : ∀ id ∈ scan.declared, validId id = true) (validResult : validId resultId = true)
    (fresh : resultId ∉ scan.declared)
    (produced : Produced before ciphertextId fun node => isFinal node || node.isAddF1M) :
    scanNode program.rotationCatalog required scan (.returnResult resultId ciphertextId) = .ok { scan with
      declared := resultId :: scan.declared
      nodes := scan.nodes ++ [.returnResult resultId ciphertextId] } := by
  have source := knows.reads valid ciphertextId "ciphertext_id" _ produced
  obtain ⟨node,member,sort,computes,same⟩ := produced
  have found : producer scan.nodes ciphertextId = some node := by
    rw [knows.nodes,← same]
    exact producer_found before distinct node member computes
  have policy := agrees resultId ciphertextId (by simp [cut]) node (by simp [cut,member]) computes same
  have final : node.isAddF1M = false → isFinal node = true := by
    intro unmasked
    simpa [unmasked] using sort
  have asks : (required.all fun ids => decide (resultId ∈ ids)) = requiresMask required resultId := rfl
  simp only [scanNode,requireId_ok _ _ _ validResult,source,found,Option.any_some,Checked.ok_bind,asks]
  refine Checked.pass _ _ _ (Checked.require_true _ _ fresh) (Checked.pass _ _ _ ?_
    (Checked.pass _ _ _ ?_ (Checked.pass _ _ _ ?_ rfl)))
  · exact Checked.require_true _ _ fun masked => policy.trans masked
  · exact Checked.require_true _ _ fun unmasked => policy.trans unmasked
  · exact Checked.require_true _ _ fun unmasked => final (policy.trans unmasked)

private theorem scanNode_ok (program : CloudProgram) (shifts : List ℕ) (good : WellFormed program shifts)
    (required : Option (List String)) (agrees : Agrees program.nodes required)
    (before after : List CloudNode) (node : CloudNode) (cut : program.nodes = before ++ node :: after)
    (scan : Scan) (knows : Knows program before scan) :
    ∃ next, scanNode program.rotationCatalog required scan node = .ok next ∧
      Knows program (before ++ [node]) next := by
  have placed := good.placed before node after cut
  have idsCut : program.ids = (program.ciphertextInputs.map CiphertextInput.ciphertextId ++
      program.plaintextMasks.map PlaintextMask.maskId ++ before.map CloudNode.resultId) ++
      node.resultId :: after.map CloudNode.resultId := by
    simp [ids,cut]
  have distinct := good.ids_nodup
  rw [idsCut,List.nodup_append] at distinct
  have valid : ∀ id ∈ scan.declared, validId id = true := by
    intro id member
    refine good.ids_valid id ?_
    rw [idsCut,List.mem_append]
    exact .inl ((knows.declared id).mp member)
  have validResult : validId node.resultId = true := good.ids_valid _ (by simp [idsCut])
  have fresh : node.resultId ∉ scan.declared := by
    intro member
    exact distinct.2.2 _ ((knows.declared _).mp member) _ (by simp) rfl
  have define := defineResult_ok scan program.slotCount node validResult fresh
  have kept := knows.define node fresh
  cases node with
  | multiplyCiphertexts resultId leftId rightId =>
    obtain ⟨⟨left,inLeft,rfl,roleLeft⟩,right,inRight,rfl,roleRight⟩ := placed
    refine ⟨_,?_,kept⟩
    simp only [scanNode,knows.readsInput valid _ left inLeft,knows.readsInput valid _ right inRight,
      roleLeft,roleRight,Checked.ok_bind]
    exact Checked.pass _ _ _ (Checked.require_true _ _ trivial)
      (Checked.pass _ _ _ (Checked.require_true _ _ (by simp)) define)
  | relinearize resultId ciphertextId =>
    refine ⟨_,?_,kept⟩
    have source := knows.reads valid ciphertextId "ciphertext_id" _ placed
    obtain ⟨earlier,member,sort,computes,rfl⟩ := placed
    have found := producer_found before
      ((List.nodup_append.mp distinct.1).2.1) earlier member computes
    simp only [scanNode,source,knows.nodes,found,Checked.ok_bind]
    simp only [knows.nodes] at define
    exact Checked.pass _ _ _ (Checked.require_true _ _ (by simpa using sort)) define
  | rotate resultId ciphertextId logicalShift openfheIndex =>
    obtain ⟨same,⟨shift,member,equal⟩,produced⟩ := placed
    subst same
    refine ⟨_,?_,kept⟩
    have positive := good.shifts_pos shift member
    have nonzero : logicalShift ≠ 0 := by omega
    simp only [scanNode,knows.reads valid ciphertextId _ _ produced,Checked.ok_bind]
    refine Checked.pass _ _ _ (Checked.require_true _ _ nonzero)
      (Checked.pass _ _ _ (Checked.require_true _ _ nonzero)
        (Checked.pass _ _ _ (Checked.require_true _ _ ?_) define))
    rw [good.catalog,equal]
    exact catalog_lookup shifts shift member
  | multiplyPlaintextMask resultId ciphertextId maskId =>
    obtain ⟨⟨mask,member,rfl⟩,produced⟩ := placed
    refine ⟨_,?_,kept⟩
    have declared : mask.maskId ∈ scan.declared := by
      rw [knows.declared]
      simp only [List.mem_append,List.mem_map]
      exact .inl (.inr ⟨mask,member,rfl⟩)
    simp only [scanNode,knows.reads valid ciphertextId _ _ produced,knows.masks mask member,
      requireId_ok _ _ _ (valid _ declared),Checked.ok_bind]
    exact Checked.pass _ _ _ (Checked.require_true _ _ trivial) define
  | addCiphertexts resultId leftId rightId =>
    refine ⟨_,?_,kept⟩
    simp only [scanNode,knows.reads valid leftId _ _ placed.1,knows.reads valid rightId _ _ placed.2,
      Checked.ok_bind]
    exact Checked.pass _ _ _ (Checked.require_true _ _ trivial) define
  | addF1MMask resultId ciphertextId maskCiphertextId maskRole =>
    obtain ⟨role,⟨operand,member,rfl,isMask⟩,produced⟩ := placed
    refine ⟨_,?_,kept⟩
    simp only [scanNode,knows.reads valid ciphertextId _ _ produced,knows.readsInput valid _ operand member,
      isMask,Checked.ok_bind]
    exact Checked.pass _ _ _ (Checked.require_true _ _ trivial)
      (Checked.pass _ _ _ (Checked.require_true _ _ role)
        (Checked.pass _ _ _ (Checked.require_true _ _ trivial) define))
  | returnResult resultId ciphertextId =>
    exact ⟨_,scanReturn_ok program required agrees before after resultId ciphertextId cut
      (List.nodup_append.mp distinct.1).2.1 scan knows valid validResult fresh placed,
      knows.returns _ rfl⟩

private theorem scanNodes_ok (program : CloudProgram) (shifts : List ℕ) (good : WellFormed program shifts)
    (required : Option (List String)) (agrees : Agrees program.nodes required)
    (before rest : List CloudNode) (cut : program.nodes = before ++ rest)
    (scan : Scan) (knows : Knows program before scan) :
    ∃ final, rest.foldlM (scanNode program.rotationCatalog required) scan = .ok final := by
  induction rest generalizing before scan with
  | nil => exact ⟨scan,rfl⟩
  | cons node rest ih =>
    obtain ⟨next,step,kept⟩ := scanNode_ok program shifts good required agrees before rest node cut
      scan knows
    obtain ⟨final,run⟩ := ih (before ++ [node]) (by simp [cut]) next kept
    exact ⟨final,by rw [List.foldlM_cons,Checked.bind_success]; exact ⟨next,step,run⟩⟩

private theorem consumers_eq_singleton (nodes : List CloudNode) (distinct : nodes.Nodup) (id : String)
    (node : CloudNode) (member : node ∈ nodes) (once : node.dependencies.count id = 1)
    (only : ∀ other ∈ nodes, id ∈ other.dependencies → other = node) : consumers nodes id = [node] := by
  induction nodes with
  | nil => simp at member
  | cons head tail ih =>
    obtain ⟨apart,rest⟩ := List.nodup_cons.mp distinct
    have reads (reader : CloudNode) : (reader.dependencies.filter fun dependency => dependency = id).map
        (fun _ => reader) = List.replicate (reader.dependencies.count id) reader := by
      rw [List.map_const',List.count_eq_length_filter]
      congr 2
    have split : consumers (head :: tail) id =
        List.replicate (head.dependencies.count id) head ++ consumers tail id := by
      rw [consumers,List.flatMap_cons,reads]
      rfl
    rw [split]
    rcases List.mem_cons.mp member with same | later
    · subst same
      have none : consumers tail id = [] := by
        rw [consumers,List.flatMap_eq_nil_iff]
        intro other inTail
        rw [reads,List.replicate_eq_nil_iff,List.count_eq_zero]
        intro read
        exact apart (only other (by simp [inTail]) read ▸ inTail)
      rw [once,none]
      rfl
    · have silent : head.dependencies.count id = 0 := by
        rw [List.count_eq_zero]
        intro read
        exact apart (only head (by simp) read ▸ later)
      rw [silent,ih rest later fun other inTail => only other (by simp [inTail])]
      rfl

private theorem onlyConsumer_of_soleReader (nodes : List CloudNode) (distinct : nodes.Nodup) (id : String)
    (sort : CloudNode → Bool) (sole : SoleReader nodes id sort) : onlyConsumer nodes id sort = true := by
  obtain ⟨node,member,sorted,once,only⟩ := sole
  rw [onlyConsumer,consumers_eq_singleton nodes distinct id node member once only]
  exact sorted

/-! The liveness worklist. -/

/-- The computed operands of an id are in the list. -/
def ClosedAt (nodes : List CloudNode) (live : List String) (id : String) : Prop :=
  ∀ dependency ∈ ((producer nodes id).map CloudNode.dependencies).getD [],
    (producer nodes dependency).isSome = true → dependency ∈ live

/-- How many computed nodes the list leaves out. -/
def missing (nodes : List CloudNode) (live : List String) : ℕ :=
  nodes.countP fun node => !node.isReturn && !live.contains node.resultId

private theorem missing_append (nodes : List CloudNode) (live fresh : List String) (distinct : fresh.Nodup)
    (found : ∀ id ∈ fresh, (producer nodes id).isSome = true ∧ live.contains id = false) :
    missing nodes (live ++ fresh) + fresh.length ≤ missing nodes live := by
  have inside : fresh ⊆ (nodes.filter fun node => (!node.isReturn && !live.contains node.resultId) &&
      fresh.contains node.resultId).map CloudNode.resultId := by
    intro id member
    obtain ⟨computed,absent⟩ := found id member
    obtain ⟨node,produces⟩ := Option.isSome_iff_exists.mp computed
    have facts := List.find?_some produces
    simp only [Bool.and_eq_true,beq_iff_eq] at facts
    refine List.mem_map.mpr ⟨node,List.mem_filter.mpr ⟨List.mem_of_find?_eq_some produces,?_⟩,facts.2⟩
    simpa [facts,member] using absent
  have count := (distinct.subperm inside).length_le
  rw [List.length_map,← List.countP_eq_length_filter] at count
  have split := List.countP_eq_countP_filter_add nodes
    (fun node => !node.isReturn && !live.contains node.resultId)
    (fun node => fresh.contains node.resultId)
  rw [List.countP_filter,List.countP_filter] at split
  have rest : missing nodes (live ++ fresh) = nodes.countP fun node =>
      (!node.isReturn && !live.contains node.resultId) && !fresh.contains node.resultId := by
    unfold missing
    congr 1
    funext node
    simp [Bool.and_assoc]
  rw [rest]
  unfold missing
  omega

private theorem liveLoop_closed (nodes : List CloudNode) (fuel : ℕ) (live worklist : List String)
    (enough : worklist.length + missing nodes live ≤ fuel) (inside : worklist ⊆ live)
    (closed : ∀ id ∈ live, id ∉ worklist → ClosedAt nodes live id) :
    live ⊆ liveLoop nodes fuel live worklist ∧
      ∀ id ∈ liveLoop nodes fuel live worklist, ClosedAt nodes (liveLoop nodes fuel live worklist) id := by
  induction fuel generalizing live worklist with
  | zero =>
    have empty : worklist = [] := List.length_eq_zero_iff.mp (by omega)
    subst empty
    exact ⟨fun id member => member,fun id member => closed id member (by simp)⟩
  | succ fuel ih =>
    rcases List.eq_nil_or_concat worklist with rfl | ⟨rest,popped,rfl⟩
    · exact ⟨fun id member => member,fun id member => closed id member (by simp)⟩
    · rw [List.concat_eq_append] at *
      rw [liveLoop,List.getLast?_concat,List.dropLast_concat]
      dsimp only
      generalize freshly : ((((producer nodes popped).map CloudNode.dependencies).getD []).filter
        fun dependency => (producer nodes dependency).isSome && !live.contains dependency).dedup = fresh
      have mem_fresh (id : String) : id ∈ fresh ↔
          id ∈ ((producer nodes popped).map CloudNode.dependencies).getD [] ∧
            (producer nodes id).isSome = true ∧ live.contains id = false := by
        rw [← freshly,List.mem_dedup,List.mem_filter]
        simp
      have shrinks := missing_append nodes live fresh (freshly ▸ List.nodup_dedup _)
        fun id member => ((mem_fresh id).mp member).2
      simp only [List.length_append,List.length_singleton] at enough
      have next := ih (live ++ fresh) (rest ++ fresh)
        (by simp only [List.length_append]; omega) ?_ ?_
      · exact ⟨fun id member => next.1 (by simp [member]),next.2⟩
      · intro id member
        rcases List.mem_append.mp member with old | new
        · exact List.mem_append.mpr (.inl (inside (by simp [old])))
        · exact List.mem_append.mpr (.inr new)
      · intro id member waiting dependency reads computed
        simp only [List.mem_append,not_or] at waiting
        have old : id ∈ live := (List.mem_append.mp member).resolve_right waiting.2
        rw [List.mem_append]
        by_cases same : id = popped
        · subst same
          by_cases present : dependency ∈ live
          · exact .inl present
          · exact .inr ((mem_fresh dependency).mpr ⟨reads,computed,by simpa using present⟩)
        · exact .inl (closed id old (by simp [same,waiting.1]) dependency reads computed)

private theorem live_of_chain (nodes : List CloudNode) (distinct : (nodes.map CloudNode.resultId).Nodup)
    (node : CloudNode) (member : node ∈ nodes) (computes : node.isReturn = false)
    (entry : String × String) (returned : entry ∈ returnNodes nodes)
    (chain : Chain nodes node.resultId entry.2) : node.resultId ∈ liveIds nodes := by
  have bound : missing nodes (((returnNodes nodes).map Prod.snd).dedup) ≤ nodes.length :=
    List.countP_le_length
  obtain ⟨grows,closed⟩ := liveLoop_closed nodes
    (((returnNodes nodes).map Prod.snd).dedup.length + nodes.length)
    ((returnNodes nodes).map Prod.snd).dedup ((returnNodes nodes).map Prod.snd).dedup
    (by omega) (fun id member => member) (fun id member absent => absurd member absent)
  have live : entry.2 ∈ liveIds nodes := grows (by
    rw [List.mem_dedup]
    exact List.mem_map.mpr ⟨entry,returned,rfl⟩)
  have spreads : ∀ id, Chain nodes id entry.2 → (producer nodes id).isSome = true →
      id ∈ liveIds nodes := by
    intro id path
    induction path using Relation.ReflTransGen.head_induction_on with
    | refl => exact fun _ => live
    | head feeds _ ih =>
      intro computed
      obtain ⟨reader,inNodes,computing,rfl,reads⟩ := feeds
      have found := producer_found nodes distinct reader inNodes computing
      refine closed reader.resultId (ih (by simp [found])) _ ?_ computed
      simpa [found] using reads
  exact spreads _ chain (by simp [producer_found nodes distinct node member computes])

theorem mem_returnNodes (nodes : List CloudNode) (resultId ciphertextId : String) :
    (resultId,ciphertextId) ∈ returnNodes nodes ↔
      CloudNode.returnResult resultId ciphertextId ∈ nodes := by
  simp only [returnNodes,List.mem_filterMap]
  constructor
  · intro ⟨node,member,same⟩
    cases node <;> simp at same
    obtain ⟨rfl,rfl⟩ := same
    exact member
  · intro member
    exact ⟨_,member,rfl⟩

private theorem catalog_ok (shifts : List ℕ) (positive : ∀ shift ∈ shifts, 0 < shift) :
    validateRotationCatalog ((Sorting.sortedSet id shifts).map fun shift : ℕ =>
      ((shift : ℤ),(shift : ℤ))) = .ok () := by
  rw [validateRotationCatalog,Checked.eachDistinct_success]
  constructor
  · rw [List.map_map]
    exact (Sorting.sortedSet_nodup id shifts).map fun left right same => by simpa using same
  · intro entry member
    obtain ⟨shift,inside,rfl⟩ := List.mem_map.mp member
    have := positive shift ((Sorting.mem_sortedSet id shifts shift).mp inside)
    have nonzero : (shift : ℤ) ≠ 0 := by omega
    exact ⟨Checked.pass _ _ _ (Checked.require_true _ _ nonzero) (Checked.require_true _ _ nonzero),rfl⟩

theorem count_filterMap_unique (f : CloudNode → Option String) (nodes : List CloudNode)
    (distinct : nodes.Nodup) (id : String) (node : CloudNode) (member : node ∈ nodes)
    (holds : f node = some id) (only : ∀ other ∈ nodes, f other = some id → other = node) :
    (nodes.filterMap f).count id = 1 := by
  have here : nodes.countP (fun other => f other == some id) = nodes.count node := by
    rw [List.count_eq_countP]
    apply List.countP_congr
    intro other inside
    rw [beq_iff_eq,beq_iff_eq]
    exact ⟨only other inside,fun same => same ▸ holds⟩
  rw [List.count_filterMap,here,List.count_eq_one_of_mem distinct member]

private theorem validateWhole_ok (program : CloudProgram) (shifts : List ℕ) (good : WellFormed program shifts)
    (required : Option (List String))
    (subset : ∀ ids, required = some ids → ∀ id ∈ ids, id ∈ program.resultIds) :
    validateWhole program required = .ok () := by
  have distinctIds : (program.nodes.map CloudNode.resultId).Nodup :=
    (List.nodup_append.mp good.ids_nodup).2.1
  have distinct : program.nodes.Nodup := List.Nodup.of_map _ distinctIds
  have sole (id : String) (sort : CloudNode → Bool) (reader : SoleReader program.nodes id sort) :=
    onlyConsumer_of_soleReader program.nodes distinct id sort reader
  have validResult : ∀ id ∈ program.resultIds, validId id = true := by
    intro id member
    rw [good.results] at member
    obtain ⟨⟨_,ciphertextId⟩,returned,rfl⟩ := List.mem_map.mp member
    refine good.ids_valid _ (List.mem_append.mpr (.inr ?_))
    exact List.mem_map.mpr ⟨_,(mem_returnNodes _ _ _).mp returned,rfl⟩
  simp only [validateWhole,Checked.then_success,Checked.each_success,Checked.require_success,
    requireId_success]
  refine ⟨validResult,good.results,?_,good.f1m_returned,?_,?_,?_,?_,?_⟩
  · cases required with
    | none => rfl
    | some ids =>
      simp only [validateRequired,Checked.then_success,Checked.each_success,Checked.require_success,requireId_success]
      exact ⟨fun id member => validResult id (subset ids rfl id member),subset ids rfl⟩
  · intro operand member role
    obtain ⟨node,inNodes,masks,once,only⟩ := good.f1m_read operand member role
    have masks : maskCiphertext node = some operand.ciphertextId := by simpa using masks
    refine count_filterMap_unique maskCiphertext program.nodes distinct operand.ciphertextId node inNodes
      masks ?_
    intro other inside asks
    refine only other inside ?_
    cases other <;> simp [maskCiphertext] at asks
    simp [CloudNode.dependencies,asks]
  · intro operand member
    exact ⟨fun role => sole _ _ (good.values_read operand member role),
      fun role => sole _ _ (good.f1m_read operand member role)⟩
  · exact fun node member multiplies => sole _ _ (good.products_read node member multiplies)
  · intro node member
    obtain ⟨inNodes,computes⟩ := List.mem_filter.mp member
    have computes : node.isReturn = false := by simpa using computes
    obtain ⟨entry,returned,chain⟩ := good.live node inNodes computes
    exact live_of_chain program.nodes distinctIds node inNodes computes entry returned chain
  · intro id member
    rcases List.mem_append.mp member with input | mask
    · obtain ⟨operand,inside,rfl⟩ := List.mem_map.mp input
      by_cases role : operand.role = .f1mMask
      · obtain ⟨node,inNodes,_,once,_⟩ := good.f1m_read operand inside role
        exact ⟨node,inNodes,List.count_pos_iff.mp (by omega)⟩
      · obtain ⟨node,inNodes,_,once,_⟩ := good.values_read operand inside role
        exact ⟨node,inNodes,List.count_pos_iff.mp (by omega)⟩
    · obtain ⟨operand,inside,rfl⟩ := List.mem_map.mp mask
      exact good.masks_read operand inside

/-- The validator accepts a well-formed program under every policy that agrees with it. -/
theorem validate_ok (program : CloudProgram) (shifts : List ℕ) (good : WellFormed program shifts)
    (required : Option (List String)) (agrees : Agrees program.nodes required)
    (subset : ∀ ids, required = some ids → ∀ id ∈ ids, id ∈ program.resultIds) :
    validate program required = .ok () := by
  have distinct := good.ids_nodup
  rw [ids,List.append_assoc,List.nodup_append] at distinct
  obtain ⟨inputsApart,restApart,differ⟩ := distinct
  have inputs := scanInputs_ok program.slotCount good.slots_pos program.ciphertextInputs ⟨[],[],[],[]⟩
    (fun operand member => good.ids_valid _ (by
      simp only [ids,List.mem_append,List.mem_map]
      exact .inl (.inl ⟨operand,member,rfl⟩))) good.inputs inputsApart (by simp)
  have masks := scanMasks_ok program.slotCount good.slots_pos program.plaintextMasks
    { declared := (program.ciphertextInputs.map CiphertextInput.ciphertextId).reverse ++ []
      ciphertexts := (program.ciphertextInputs.map fun operand =>
        (operand.ciphertextId,program.slotCount,some operand.role)).reverse ++ []
      masks := []
      nodes := [] }
    (fun operand member => good.ids_valid _ (by
      simp only [ids,List.mem_append,List.mem_map]
      exact .inl (.inr ⟨operand,member,rfl⟩))) good.masks (List.nodup_append.mp restApart).1 (by
    intro operand member declared
    simp only [List.append_nil,List.mem_reverse] at declared
    exact differ _ declared operand.maskId (by simp [List.mem_map_of_mem member]) rfl)
  have start : Knows program [] {
      declared := (program.plaintextMasks.map PlaintextMask.maskId).reverse ++
        ((program.ciphertextInputs.map CiphertextInput.ciphertextId).reverse ++ [])
      ciphertexts := (program.ciphertextInputs.map fun operand =>
        (operand.ciphertextId,program.slotCount,some operand.role)).reverse ++ []
      masks := (program.plaintextMasks.map fun operand =>
        (operand.maskId,program.slotCount)).reverse ++ []
      nodes := [] } := by
    constructor
    · intro id
      simp only [List.append_nil,List.mem_append,List.mem_reverse,List.map_nil]
      exact or_comm
    · intro operand member
      refine (Dict.lookup_eq_some_iff _ ?_ _ _).mpr (List.mem_append.mpr (.inl
        (List.mem_reverse.mpr (List.mem_map.mpr ⟨operand,member,rfl⟩))))
      simpa [Function.comp_def] using List.nodup_reverse.mpr inputsApart
    · simp
    · intro mask member
      refine (Dict.lookup_eq_some_iff _ ?_ _ _).mpr (List.mem_append.mpr (.inl
        (List.mem_reverse.mpr (List.mem_map.mpr ⟨mask,member,rfl⟩))))
      simpa [Function.comp_def] using List.nodup_reverse.mpr (List.nodup_append.mp restApart).1
    · rfl
  obtain ⟨final,nodes⟩ := scanNodes_ok program shifts good required agrees [] program.nodes rfl _ start
  have catalog : validateRotationCatalog program.rotationCatalog = .ok () :=
    good.catalog ▸ catalog_ok shifts good.shifts_pos
  refine Checked.pass _ _ _ (Checked.require_true _ _ good.format)
    (Checked.pass _ _ _ (Checked.require_true _ _ good.slots_pos) (Checked.pass _ _ _ catalog ?_))
  simp only [inputs,masks,nodes,Checked.ok_bind]
  exact validateWhole_ok program shifts good required subset

end CloudProgram
end DynamicCssc
