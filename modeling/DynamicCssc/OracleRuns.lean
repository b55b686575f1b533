import DynamicCssc.PlaintextOracle
import DynamicCssc.ProgramScan
import DynamicCssc.Foundation.StraightLine

/-! A program that the validator accepts runs to its end: every node finds its operands, with equal
lengths, and writes an id that nothing has used. -/
namespace DynamicCssc.PlaintextOracle
open Foundation CloudProgram

def ciphertextSources : CloudNode → List String
  | .multiplyCiphertexts _ leftId rightId | .addCiphertexts _ leftId rightId => [leftId,rightId]
  | .relinearize _ ciphertextId | .rotate _ ciphertextId _ _ | .multiplyPlaintextMask _ ciphertextId _
  | .returnResult _ ciphertextId => [ciphertextId]
  | .addF1MMask _ ciphertextId maskCiphertextId _ => [ciphertextId,maskCiphertextId]

def signature : StraightLine.Signature String CloudNode where
  name := CloudNode.resultId
  defines node := !node.isReturn
  sources := ciphertextSources

def combined (operation : ℤ → ℤ → ℤ) (modulus : ℕ) (left right : List ℤ) : List ℤ :=
  (left.zip right).map fun pair => operation pair.1 pair.2 % modulus

def outcome (masks : Vectors) (modulus : ℕ) (env : String → Option (List ℤ)) :
    CloudNode → Option (List ℤ)
  | .multiplyCiphertexts _ leftId rightId =>
      Option.map₂ (combined (· * ·) modulus) (env leftId) (env rightId)
  | .relinearize _ ciphertextId | .returnResult _ ciphertextId => env ciphertextId
  | .rotate _ ciphertextId _ openfheIndex => (env ciphertextId).map (rotated openfheIndex)
  | .multiplyPlaintextMask _ ciphertextId maskId =>
      Option.map₂ (combined (· * ·) modulus) (env ciphertextId) (masks.lookup maskId)
  | .addCiphertexts _ leftId rightId | .addF1MMask _ leftId rightId _ =>
      Option.map₂ (combined (· + ·) modulus) (env leftId) (env rightId)

def Equation (masks : Vectors) (modulus : ℕ) (env : String → Option (List ℤ)) (node : CloudNode) :
    Prop :=
  (outcome masks modulus env node).isSome ∧
    (node.isReturn = false → env node.resultId = outcome masks modulus env node)

def emits (env : String → Option (List ℤ)) : CloudNode → Vectors
  | .returnResult resultId ciphertextId => [(resultId,(env ciphertextId).getD [])]
  | _ => []

def Free (state : Execution) (id : String) : Prop :=
  id ∉ state.ciphertexts.map Prod.fst ∧ id ∉ state.results.map Prod.fst

def machine (rotations : List (ℤ × ℤ)) (masks : Vectors) (modulus : ℕ) :
    StraightLine.Machine String (List ℤ) CloudNode (String × List ℤ) Execution Failure where
  step := executeNode rotations masks modulus
  lookup state id := state.ciphertexts.lookup id
  free := Free
  output := Execution.results

def Even (width : ℕ) (state : Execution) : Prop :=
  ∀ id values, state.ciphertexts.lookup id = some values → values.length = width

/-- The catalogue and the masks hold what a node looks up in them. -/
def Known (rotations : List (ℤ × ℤ)) (masks : Vectors) (width : ℕ) : CloudNode → Prop
  | .rotate _ _ logicalShift openfheIndex => rotations.lookup logicalShift = some openfheIndex
  | .multiplyPlaintextMask _ _ maskId => ∃ mask, masks.lookup maskId = some mask ∧ mask.length = width
  | _ => True

def Execution.record (state : Execution) (node : CloudNode) (values : List ℤ) : Execution :=
  if node.isReturn then { state with results := Dict.set node.resultId values state.results }
  else state.define node.resultId values

theorem read_ok {table : Vectors} {id : String} {values : List ℤ} (found : table.lookup id = some values) :
    read table id = .ok values := by
  rw [read,found]

theorem pointwise_ok (operation : ℤ → ℤ → ℤ) (modulus : ℕ) (left right : List ℤ)
    (same : left.length = right.length) :
    pointwise operation modulus left right = .ok (combined operation modulus left right) := by
  rw [pointwise,(zipStrict_success left right _).mpr ⟨same,rfl⟩]
  rfl

@[simp] theorem combined_length (operation : ℤ → ℤ → ℤ) (modulus : ℕ) (left right : List ℤ) :
    (combined operation modulus left right).length = min left.length right.length := by
  simp [combined]

@[simp] theorem rotated_length (index : ℤ) (source : List ℤ) :
    (rotated index source).length = source.length := by
  simp [rotated]

section Step
variable {rotations : List (ℤ × ℤ)} {masks : Vectors} {modulus width : ℕ}

private theorem executeNode_ok (state : Execution) (node : CloudNode) (even : Even width state)
    (known : Known rotations masks width node)
    (present : ∀ source ∈ ciphertextSources node, (state.ciphertexts.lookup source).isSome) :
    ∃ values, outcome masks modulus (fun id => state.ciphertexts.lookup id) node = some values ∧
      values.length = width ∧
      executeNode rotations masks modulus state node = .ok (state.record node values) := by
  cases node with
  | multiplyCiphertexts resultId leftId rightId =>
    obtain ⟨left,hl⟩ := Option.isSome_iff_exists.mp (present leftId (by simp [ciphertextSources]))
    obtain ⟨right,hr⟩ := Option.isSome_iff_exists.mp (present rightId (by simp [ciphertextSources]))
    have same := (even _ _ hl).trans (even _ _ hr).symm
    refine ⟨combined (· * ·) modulus left right,by simp [outcome,hl,hr],?_,?_⟩
    · rw [combined_length,same,min_self,even _ _ hr]
    · rw [executeNode,read_ok hl,read_ok hr,Checked.ok_bind,Checked.ok_bind,
        pointwise_ok _ _ _ _ same]
      rfl
  | relinearize resultId ciphertextId =>
    obtain ⟨source,hs⟩ := Option.isSome_iff_exists.mp (present ciphertextId (by simp [ciphertextSources]))
    refine ⟨source,hs,even _ _ hs,?_⟩
    rw [executeNode,read_ok hs]
    rfl
  | rotate resultId ciphertextId logicalShift openfheIndex =>
    obtain ⟨source,hs⟩ := Option.isSome_iff_exists.mp (present ciphertextId (by simp [ciphertextSources]))
    refine ⟨rotated openfheIndex source,by simp [outcome,hs],?_,?_⟩
    · rw [rotated_length,even _ _ hs]
    · rw [executeNode]
      refine Checked.pass _ _ _ (Checked.require_true _ _ known) ?_
      rw [read_ok hs]
      rfl
  | multiplyPlaintextMask resultId ciphertextId maskId =>
    obtain ⟨source,hs⟩ := Option.isSome_iff_exists.mp (present ciphertextId (by simp [ciphertextSources]))
    obtain ⟨mask,hm,long⟩ := known
    have same := (even _ _ hs).trans long.symm
    refine ⟨combined (· * ·) modulus source mask,by simp [outcome,hs,hm],?_,?_⟩
    · rw [combined_length,same,min_self,long]
    · rw [executeNode,read_ok hs,read_ok hm,Checked.ok_bind,Checked.ok_bind,
        pointwise_ok _ _ _ _ same]
      rfl
  | addCiphertexts resultId leftId rightId =>
    obtain ⟨left,hl⟩ := Option.isSome_iff_exists.mp (present leftId (by simp [ciphertextSources]))
    obtain ⟨right,hr⟩ := Option.isSome_iff_exists.mp (present rightId (by simp [ciphertextSources]))
    have same := (even _ _ hl).trans (even _ _ hr).symm
    refine ⟨combined (· + ·) modulus left right,by simp [outcome,hl,hr],?_,?_⟩
    · rw [combined_length,same,min_self,even _ _ hr]
    · rw [executeNode,read_ok hl,read_ok hr,Checked.ok_bind,Checked.ok_bind,
        pointwise_ok _ _ _ _ same]
      rfl
  | addF1MMask resultId ciphertextId maskCiphertextId maskRole =>
    obtain ⟨source,hs⟩ := Option.isSome_iff_exists.mp (present ciphertextId (by simp [ciphertextSources]))
    obtain ⟨mask,hm⟩ := Option.isSome_iff_exists.mp (present maskCiphertextId (by simp [ciphertextSources]))
    have same := (even _ _ hs).trans (even _ _ hm).symm
    refine ⟨combined (· + ·) modulus source mask,by simp [outcome,hs,hm],?_,?_⟩
    · rw [combined_length,same,min_self,even _ _ hm]
    · rw [executeNode,read_ok hs,read_ok hm,Checked.ok_bind,Checked.ok_bind,
        pointwise_ok _ _ _ _ same]
      rfl
  | returnResult resultId ciphertextId =>
    obtain ⟨source,hs⟩ := Option.isSome_iff_exists.mp (present ciphertextId (by simp [ciphertextSources]))
    refine ⟨source,hs,even _ _ hs,?_⟩
    rw [executeNode,read_ok hs]
    rfl

theorem outcome_local (env other : String → Option (List ℤ)) (node : CloudNode)
    (same : ∀ id ∈ ciphertextSources node, other id = env id) :
    outcome masks modulus other node = outcome masks modulus env node := by
  cases node <;> simp only [ciphertextSources,List.mem_cons,List.not_mem_nil,or_false,forall_eq_or_imp,
    forall_eq] at same <;> simp only [outcome,same]

private theorem keys_set {table : Vectors} {id : String} {values : List ℤ} (fresh : id ∉ table.map Prod.fst) :
    (Dict.set id values table).map Prod.fst = table.map Prod.fst ++ [id] := by
  rw [Dict.set_fresh id values table fresh]
  simp

private theorem record_computed (state : Execution) (node : CloudNode) (values : List ℤ)
    (computes : node.isReturn = false) : state.record node values = state.define node.resultId values := by
  rw [Execution.record,if_neg (by simp [computes])]

private theorem record_returned (state : Execution) (resultId ciphertextId : String) (values : List ℤ) :
    state.record (.returnResult resultId ciphertextId) values =
      { state with results := Dict.set resultId values state.results } := rfl

/-- The oracle is a machine for cloud nodes. -/
theorem implements : StraightLine.Implements signature (machine rotations masks modulus)
    (Known rotations masks width) (Even width) (Equation masks modulus) emits where
  advance := by
    intro state node known even present (free : Free state node.resultId)
    obtain ⟨values,makes,long,runs⟩ :=
      @executeNode_ok rotations masks modulus width state node even known present
    refine ⟨state.record node values,runs,?_⟩
    cases computes : node.isReturn with
    | true =>
      cases node with
      | returnResult resultId ciphertextId =>
        rw [record_returned]
        have unused : resultId ∉ state.results.map Prod.fst := free.2
        refine ⟨even,?_,⟨?_,by simp [CloudNode.isReturn]⟩,?_⟩
        · intro id (other : id ≠ resultId)
          refine ⟨rfl,fun open' => ⟨open'.1,?_⟩⟩
          show id ∉ (Dict.set resultId values state.results).map Prod.fst
          rw [keys_set unused,List.mem_append,List.mem_singleton,not_or]
          exact ⟨open'.2,other⟩
        · exact Option.isSome_iff_exists.mpr ⟨values,makes⟩
        · have held : state.ciphertexts.lookup ciphertextId = some values := makes
          simp [machine,emits,held,Dict.set_fresh resultId values state.results unused]
      | _ => cases computes
    | false =>
      rw [record_computed state node values computes]
      have apart : ∀ source ∈ ciphertextSources node, source ≠ node.resultId := by
        intro source reads same
        have there : (state.ciphertexts.lookup source).isSome := present source reads
        rw [same,(Dict.lookup_none_iff _ _).mpr free.1] at there
        cases there
      have kept : ∀ source ∈ ciphertextSources node,
          (state.define node.resultId values).ciphertexts.lookup source =
            state.ciphertexts.lookup source := by
        intro source reads
        rw [Execution.define,Dict.lookup_set,if_neg (apart source reads)]
      have again : outcome masks modulus
          (fun id => (state.define node.resultId values).ciphertexts.lookup id) node = some values :=
        (outcome_local _ _ node kept).trans makes
      refine ⟨?_,?_,⟨?_,?_⟩,?_⟩
      · intro id held found
        rw [Execution.define,Dict.lookup_set] at found
        split at found
        · cases found
          exact long
        · exact even id held found
      · intro id (other : id ≠ node.resultId)
        refine ⟨?_,fun open' => ⟨?_,open'.2⟩⟩
        · show (Dict.set node.resultId values state.ciphertexts).lookup id = _
          rw [Dict.lookup_set,if_neg other]
          rfl
        · show id ∉ (Dict.set node.resultId values state.ciphertexts).map Prod.fst
          rw [keys_set free.1,List.mem_append,List.mem_singleton,not_or]
          exact ⟨open'.1,other⟩
      · exact Option.isSome_iff_exists.mpr ⟨values,again⟩
      · intro _
        simp only [machine]
        rw [again,Execution.define,Dict.lookup_set,if_pos rfl]
      · cases node with
        | returnResult resultId ciphertextId => cases computes
        | _ => simp [machine,emits,Execution.define]
  unused := by
    intro state id free
    exact (Dict.lookup_none_iff _ _).mpr free.1
  defined := by
    intro env node holds defines
    simp only [signature,Bool.not_eq_true'] at defines
    rw [signature,holds.2 defines]
    exact holds.1
  equation_local := by
    intro env other node holds same
    have equal := @outcome_local masks modulus env other node
      fun id reads => same id (.inr reads)
    refine ⟨by rw [equal]; exact holds.1,fun computes => ?_⟩
    rw [equal,same node.resultId (.inl rfl),holds.2 computes]
  emits_local := by
    intro env other node same
    cases node with
    | returnResult resultId ciphertextId =>
      simp only [emits]
      rw [same ciphertextId (.inr (by simp [signature,ciphertextSources]))]
    | _ => rfl

end Step

/-! What the oracle is given, and what it makes of it. -/

/-- Vectors of the declared ids and lengths, and the committed masks. -/
structure Supplied (program : CloudProgram) (ciphertextInputs plaintextMasks : Vectors) : Prop where
  ciphertextIds : SameIds ciphertextInputs (program.ciphertextInputs.map CiphertextInput.ciphertextId)
  lengths : ∀ operand ∈ program.ciphertextInputs, ∀ values,
    ciphertextInputs.lookup operand.ciphertextId = some values → values.length = operand.length
  maskIds : SameIds plaintextMasks (program.plaintextMasks.map PlaintextMask.maskId)
  committed : ∀ mask ∈ program.plaintextMasks, ∀ values,
    plaintextMasks.lookup mask.maskId = some values → values = mask.values

/-- The ciphertexts that the nodes start from. -/
def loaded (program : CloudProgram) (ciphertextInputs : Vectors) (modulus : ℕ) : Vectors :=
  program.ciphertextInputs.map fun operand => (operand.ciphertextId,
    reduced modulus ((ciphertextInputs.lookup operand.ciphertextId).getD []))

def loadedMasks (program : CloudProgram) (modulus : ℕ) : Vectors :=
  program.plaintextMasks.map fun mask => (mask.maskId,reduced modulus mask.values)

theorem SameIds.found {supplied : Vectors} {expected : List String} (same : SameIds supplied expected)
    {id : String} (member : id ∈ expected) : ∃ values, supplied.lookup id = some values := by
  cases found : supplied.lookup id with
  | some values => exact ⟨values,rfl⟩
  | none => exact absurd (same.2 id member) ((Dict.lookup_none_iff _ _).mp found)

section Prepare
variable {program : CloudProgram} {required : Option (List String)}
  {ciphertextInputs plaintextMasks : Vectors} {modulus : ℕ}

private theorem loadCiphertexts_ok (accepted : Accepted program required)
    (supplied : Supplied program ciphertextInputs plaintextMasks) :
    loadCiphertexts program ciphertextInputs modulus =
      .ok (loaded program ciphertextInputs modulus) := by
  rw [loadCiphertexts,Checked.foldlM_ok _ (fun table operand => Dict.set operand.ciphertextId
    (reduced modulus ((ciphertextInputs.lookup operand.ciphertextId).getD [])) table)]
  · rw [Dict.foldl_set]
    · rfl
    · exact (List.nodup_append.mp (List.nodup_append.mp accepted.ids_nodup).1).1
    · simp
  · intro table operand member
    obtain ⟨values,found⟩ := supplied.ciphertextIds.found (List.mem_map.mpr ⟨operand,member,rfl⟩)
    rw [read_ok found,Checked.ok_bind,vector]
    rw [Checked.require_true _ _ (supplied.lengths operand member values found),Checked.ok_bind,found]
    rfl

private theorem loadMasks_ok (accepted : Accepted program required)
    (supplied : Supplied program ciphertextInputs plaintextMasks) :
    loadMasks program plaintextMasks modulus = .ok (loadedMasks program modulus) := by
  rw [loadMasks,Checked.foldlM_ok _ (fun table mask => Dict.set mask.maskId
    (reduced modulus mask.values) table)]
  · rw [Dict.foldl_set]
    · rfl
    · exact (List.nodup_append.mp (List.nodup_append.mp accepted.ids_nodup).1).2.1
    · simp
  · intro table mask member
    obtain ⟨values,found⟩ := supplied.maskIds.found (List.mem_map.mpr ⟨mask,member,rfl⟩)
    have same := supplied.committed mask member values found
    subst same
    rw [read_ok found,Checked.ok_bind,vector]
    obtain ⟨long,shape⟩ := accepted.masks mask member
    rw [Checked.require_true _ _ (shape.trans long.symm),Checked.ok_bind]
    exact Checked.pass _ _ _ (Checked.require_true _ _ rfl) rfl

theorem rotationTable_eq (accepted : Accepted program required) :
    rotationTable program.rotationCatalog = program.rotationCatalog := by
  rw [rotationTable,Dict.foldl_set _ _ _ _ accepted.catalog_distinct (by simp)]
  simp

theorem prepare_ok (accepted : Accepted program required)
    (inside : ∀ entry ∈ program.rotationCatalog, entry.2.natAbs < program.slotCount)
    (supplied : Supplied program ciphertextInputs plaintextMasks) :
    prepare program ciphertextInputs plaintextMasks modulus =
      .ok (⟨loaded program ciphertextInputs modulus,[]⟩,loadedMasks program modulus) := by
  rw [prepare]
  refine Checked.pass _ _ _ (Checked.require_true _ _ inside) ?_
  refine Checked.pass _ _ _ (Checked.require_true _ _ supplied.ciphertextIds) ?_
  refine Checked.pass _ _ _ (Checked.require_true _ _ supplied.maskIds) ?_
  rw [loadCiphertexts_ok accepted supplied,Checked.ok_bind,loadMasks_ok accepted supplied]
  rfl

/-! The run over the nodes. -/

theorem sited_reads {before : List CloudNode} {node : CloudNode}
    (sited : Sited program required before node) :
    ∀ source ∈ ciphertextSources node, Available program.ciphertextInputs before source := by
  have produced : ∀ id sort, Produced before id sort → Available program.ciphertextInputs before id := by
    intro id sort found
    obtain ⟨earlier,member,_,computes,named⟩ := found
    exact .inr ⟨earlier,member,rfl,computes,named⟩
  cases node with
  | multiplyCiphertexts resultId leftId rightId =>
    obtain ⟨left,hl,right,hr,rfl,rfl,_⟩ := sited
    simp only [ciphertextSources,List.mem_cons,List.not_mem_nil,or_false,forall_eq_or_imp,forall_eq]
    exact ⟨.inl ⟨left,hl,rfl⟩,.inl ⟨right,hr,rfl⟩⟩
  | addF1MMask resultId ciphertextId maskCiphertextId maskRole =>
    obtain ⟨source,operand,member,named,_⟩ := sited
    simp only [ciphertextSources,List.mem_cons,List.not_mem_nil,or_false,forall_eq_or_imp,forall_eq]
    exact ⟨source,.inl ⟨operand,member,named⟩⟩
  | relinearize resultId ciphertextId => simpa [ciphertextSources] using produced _ _ sited
  | returnResult resultId ciphertextId => simpa [ciphertextSources] using produced _ _ sited
  | rotate resultId ciphertextId logicalShift openfheIndex => simpa [ciphertextSources] using sited.1
  | multiplyPlaintextMask resultId ciphertextId maskId => simpa [ciphertextSources] using sited.1
  | addCiphertexts resultId leftId rightId =>
    simp only [ciphertextSources,List.mem_cons,List.not_mem_nil,or_false,forall_eq_or_imp,forall_eq]
    exact sited

theorem ordered (accepted : Accepted program required) (before after : List CloudNode)
    (cut : program.nodes = before ++ after) : StraightLine.Ordered signature
      (fun id => ∃ operand ∈ program.ciphertextInputs, operand.ciphertextId = id) before := by
  intro early node late split source reads
  have sited := accepted.sited early node (late ++ after) (by rw [cut,split]; simp)
  rcases sited_reads sited source reads with declared | ⟨earlier,member,_,computes,named⟩
  · exact .inl declared
  · exact .inr ⟨earlier,member,by simp [signature,computes],named⟩

theorem lookup_loadedMasks (accepted : Accepted program required) (mask : PlaintextMask)
    (member : mask ∈ program.plaintextMasks) :
    (loadedMasks program modulus).lookup mask.maskId = some (reduced modulus mask.values) := by
  refine (Dict.lookup_eq_some_iff _ ?_ _ _).mpr (List.mem_map.mpr ⟨mask,member,rfl⟩)
  have distinct := (List.nodup_append.mp (List.nodup_append.mp accepted.ids_nodup).1).2.1
  simpa [loadedMasks,Function.comp_def] using distinct

theorem known (accepted : Accepted program required) (node : CloudNode) (member : node ∈ program.nodes) :
    Known program.rotationCatalog (loadedMasks program modulus) program.slotCount node := by
  obtain ⟨before,after,cut⟩ := List.append_of_mem member
  have sited := accepted.sited before node after cut
  cases node with
  | rotate resultId ciphertextId logicalShift openfheIndex => exact sited.2
  | multiplyPlaintextMask resultId ciphertextId maskId =>
    obtain ⟨_,mask,inMasks,rfl⟩ := sited
    exact ⟨_,lookup_loadedMasks accepted mask inMasks,by simp [reduced,(accepted.masks mask inMasks).2]⟩
  | _ => trivial

private theorem loaded_keys : (loaded program ciphertextInputs modulus).map Prod.fst =
    program.ciphertextInputs.map CiphertextInput.ciphertextId := by
  simp [loaded,Function.comp_def]

theorem lookup_loaded (accepted : Accepted program required) (operand : CiphertextInput)
    (member : operand ∈ program.ciphertextInputs) :
    (loaded program ciphertextInputs modulus).lookup operand.ciphertextId =
      some (reduced modulus ((ciphertextInputs.lookup operand.ciphertextId).getD [])) := by
  refine (Dict.lookup_eq_some_iff _ ?_ _ _).mpr (List.mem_map.mpr ⟨operand,member,rfl⟩)
  rw [loaded_keys]
  exact (List.nodup_append.mp (List.nodup_append.mp accepted.ids_nodup).1).1

private theorem loaded_even (accepted : Accepted program required)
    (supplied : Supplied program ciphertextInputs plaintextMasks) :
    Even program.slotCount ⟨loaded program ciphertextInputs modulus,[]⟩ := by
  intro id values found
  obtain ⟨operand,member,same⟩ := List.mem_map.mp (Dict.mem_of_lookup found)
  obtain ⟨rfl,rfl⟩ := Prod.mk.inj same
  obtain ⟨vector,given⟩ := supplied.ciphertextIds.found (List.mem_map.mpr ⟨operand,member,rfl⟩)
  rw [given,reduced,List.length_map,Option.getD_some,supplied.lengths operand member vector given,
    accepted.inputs operand member]

/-- Up to any node of the program, the run goes on, with every id written once. -/
theorem run_before (accepted : Accepted program required)
    (supplied : Supplied program ciphertextInputs plaintextMasks) (before after : List CloudNode)
    (cut : program.nodes = before ++ after) :
    ∃ state, before.foldlM (executeNode program.rotationCatalog (loadedMasks program modulus) modulus)
        ⟨loaded program ciphertextInputs modulus,[]⟩ = .ok state ∧ Even program.slotCount state ∧
      (∀ id, id ∉ before.map CloudNode.resultId →
        state.ciphertexts.lookup id = (loaded program ciphertextInputs modulus).lookup id ∧
        (id ∉ program.ciphertextInputs.map CiphertextInput.ciphertextId → Free state id)) ∧
      (∀ node ∈ before, Equation (loadedMasks program modulus) modulus
        (fun id => state.ciphertexts.lookup id) node) ∧
      state.results = before.flatMap (emits fun id => state.ciphertexts.lookup id) := by
  have distinct := accepted.ids_nodup
  rw [ids,cut,List.map_append,← List.append_assoc] at distinct
  have apart := List.nodup_append.mp (List.nodup_append.mp distinct).1
  have start : ∀ id, id ∉ program.ciphertextInputs.map CiphertextInput.ciphertextId →
      Free ⟨loaded program ciphertextInputs modulus,[]⟩ id := by
    intro id absent
    exact ⟨by rw [loaded_keys]; exact absent,by simp⟩
  have present : ∀ id, (∃ operand ∈ program.ciphertextInputs, operand.ciphertextId = id) →
      ((loaded program ciphertextInputs modulus).lookup id).isSome := by
    intro id declared
    obtain ⟨operand,member,rfl⟩ := declared
    rw [lookup_loaded accepted operand member]
    rfl
  have unused : ∀ node ∈ before, Free ⟨loaded program ciphertextInputs modulus,[]⟩ node.resultId := by
    intro node member
    refine start _ fun declared => ?_
    exact apart.2.2 _ (List.mem_append_left _ declared) _ (List.mem_map.mpr ⟨node,member,rfl⟩) rfl
  obtain ⟨state,run,even,frame,solved,output⟩ := StraightLine.run_solves signature
    (machine program.rotationCatalog (loadedMasks program modulus) modulus)
    (Known program.rotationCatalog (loadedMasks program modulus) program.slotCount)
    (Even program.slotCount) (Equation (loadedMasks program modulus) modulus) emits implements
    (fun id => ∃ operand ∈ program.ciphertextInputs, operand.ciphertextId = id)
    ⟨loaded program ciphertextInputs modulus,[]⟩ (loaded_even accepted supplied) present before
    (fun node member => known accepted node (by simp [cut,member])) apart.2.1 unused
    (ordered accepted before after cut)
  refine ⟨state,run,even,?_,solved,output⟩
  intro id absent
  exact ⟨(frame id absent).1,fun other => (frame id absent).2 (start id other)⟩

end Prepare

end DynamicCssc.PlaintextOracle
