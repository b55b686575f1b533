import DynamicCssc.CloudProgramAccepts

/-! What the validator of cloud programs guarantees of a program that it accepts, whichever results
it wants masked: the facts are read off its scan, node by node. -/
namespace DynamicCssc.CloudProgram
open Foundation

/-- A ciphertext that is declared, or computed by an earlier node. -/
def Available (inputs : List CiphertextInput) (before : List CloudNode) (id : String) : Prop :=
  (∃ operand ∈ inputs, operand.ciphertextId = id) ∨ Produced before id fun _ => true

/-- What the validator asks of a node that stands behind the nodes in `before`. -/
def Sited (program : CloudProgram) (required : Option (List String)) (before : List CloudNode) :
    CloudNode → Prop
  | .multiplyCiphertexts _ leftId rightId =>
      ∃ left ∈ program.ciphertextInputs, ∃ right ∈ program.ciphertextInputs,
        left.ciphertextId = leftId ∧ right.ciphertextId = rightId ∧
        ((left.role = .value ∧ right.role = .query) ∨ (left.role = .query ∧ right.role = .value))
  | .relinearize _ ciphertextId => Produced before ciphertextId CloudNode.isMultiply
  | .rotate _ ciphertextId logicalShift openfheIndex =>
      Available program.ciphertextInputs before ciphertextId ∧
      program.rotationCatalog.lookup logicalShift = some openfheIndex
  | .multiplyPlaintextMask _ ciphertextId maskId =>
      Available program.ciphertextInputs before ciphertextId ∧
      ∃ mask ∈ program.plaintextMasks, mask.maskId = maskId
  | .addCiphertexts _ leftId rightId => Available program.ciphertextInputs before leftId ∧
      Available program.ciphertextInputs before rightId
  | .addF1MMask _ ciphertextId maskCiphertextId _ =>
      Available program.ciphertextInputs before ciphertextId ∧
      ∃ operand ∈ program.ciphertextInputs, operand.ciphertextId = maskCiphertextId ∧
        operand.role = .f1mMask
  | .returnResult resultId ciphertextId => Produced before ciphertextId fun node =>
      if requiresMask required resultId then node.isAddF1M else isFinal node

structure Accepted (program : CloudProgram) (required : Option (List String)) : Prop where
  slots_pos : 0 < program.slotCount
  catalog_distinct : (program.rotationCatalog.map Prod.fst).Nodup
  ids_nodup : program.ids.Nodup
  inputs : ∀ operand ∈ program.ciphertextInputs, operand.length = program.slotCount
  masks : ∀ mask ∈ program.plaintextMasks, mask.length = program.slotCount ∧
    mask.values.length = program.slotCount
  sited : ∀ before node after, program.nodes = before ++ node :: after →
    Sited program required before node
  results : program.resultIds = (returnNodes program.nodes).map Prod.fst
  f1m_returned : ∀ node ∈ program.nodes, node.isAddF1M = true →
    ((returnNodes program.nodes).map Prod.snd).count node.resultId = 1
  f1m_added : ∀ operand ∈ program.ciphertextInputs, operand.role = .f1mMask →
    (program.nodes.filterMap maskCiphertext).count operand.ciphertextId = 1
  f1m_read : ∀ operand ∈ program.ciphertextInputs, operand.role = .f1mMask →
    onlyConsumer program.nodes operand.ciphertextId
      (fun node => maskCiphertext node = some operand.ciphertextId) = true

/-! The loops over the operands, read backwards. -/

private theorem scanInputs_read (slotCount : ℕ) (operands : List CiphertextInput) (scan next : Scan)
    (run : operands.foldlM (scanInput slotCount) scan = .ok next) :
    (∀ operand ∈ operands, operand.length = slotCount ∧ operand.ciphertextId ∉ scan.declared) ∧
    (operands.map CiphertextInput.ciphertextId).Nodup ∧
    next = { scan with
      declared := (operands.map CiphertextInput.ciphertextId).reverse ++ scan.declared
      ciphertexts := (operands.map fun operand =>
        (operand.ciphertextId,slotCount,some operand.role)).reverse ++ scan.ciphertexts } := by
  induction operands generalizing scan with
  | nil =>
    cases run
    exact ⟨by simp,by simp,rfl⟩
  | cons operand operands ih =>
    rw [List.foldlM_cons,Checked.bind_success] at run
    obtain ⟨middle,first,rest⟩ := run
    simp only [scanInput,Checked.then_success,Checked.require_success] at first
    obtain ⟨_,fresh,_,length,stepped⟩ := first
    cases stepped
    obtain ⟨others,distinct,same⟩ := ih _ rest
    refine ⟨?_,?_,?_⟩
    · intro other member
      rcases List.mem_cons.mp member with here | later
      · rw [here]
        exact ⟨length,fresh⟩
      · exact ⟨(others other later).1,fun old => (others other later).2 (List.mem_cons_of_mem _ old)⟩
    · rw [List.map_cons,List.nodup_cons]
      refine ⟨?_,distinct⟩
      intro again
      obtain ⟨other,member,clash⟩ := List.mem_map.mp again
      exact (others other member).2 (by simp [clash])
    · rw [same]
      simp [length]

private theorem scanMasks_read (slotCount : ℕ) (operands : List PlaintextMask) (scan next : Scan)
    (run : operands.foldlM (scanMask slotCount) scan = .ok next) :
    (∀ mask ∈ operands, mask.length = slotCount ∧ mask.values.length = slotCount ∧
      mask.maskId ∉ scan.declared) ∧
    (operands.map PlaintextMask.maskId).Nodup ∧
    next = { scan with
      declared := (operands.map PlaintextMask.maskId).reverse ++ scan.declared
      masks := (operands.map fun operand => (operand.maskId,slotCount)).reverse ++ scan.masks } := by
  induction operands generalizing scan with
  | nil =>
    cases run
    exact ⟨by simp,by simp,rfl⟩
  | cons operand operands ih =>
    rw [List.foldlM_cons,Checked.bind_success] at run
    obtain ⟨middle,first,rest⟩ := run
    simp only [scanMask,Checked.then_success,Checked.require_success] at first
    obtain ⟨_,fresh,_,length,shape,_,stepped⟩ := first
    cases stepped
    obtain ⟨others,distinct,same⟩ := ih _ rest
    refine ⟨?_,?_,?_⟩
    · intro other member
      rcases List.mem_cons.mp member with here | later
      · rw [here]
        exact ⟨length,shape.trans length,fresh⟩
      · obtain ⟨long,values,new⟩ := others other later
        exact ⟨long,values,fun old => new (List.mem_cons_of_mem _ old)⟩
    · rw [List.map_cons,List.nodup_cons]
      refine ⟨?_,distinct⟩
      intro again
      obtain ⟨other,member,clash⟩ := List.mem_map.mp again
      exact (others other member).2.2 (by simp [clash])
    · rw [same]
      simp [length]

/-! The loop over the nodes. -/

/-- What the scan holds behind the nodes in `before` comes from the operands and these nodes. -/
structure Seen (program : CloudProgram) (before : List CloudNode) (scan : Scan) : Prop where
  declared : ∀ id, id ∈ program.ciphertextInputs.map CiphertextInput.ciphertextId ++
    program.plaintextMasks.map PlaintextMask.maskId ++ before.map CloudNode.resultId → id ∈ scan.declared
  distinct : (program.ciphertextInputs.map CiphertextInput.ciphertextId ++
    program.plaintextMasks.map PlaintextMask.maskId ++ before.map CloudNode.resultId).Nodup
  ciphertexts : ∀ id entry, scan.ciphertexts.lookup id = some entry →
    (∃ operand ∈ program.ciphertextInputs, operand.ciphertextId = id ∧ entry.2 = some operand.role) ∨
    (entry.2 = none ∧ Produced before id fun _ => true)
  masks : ∀ id length, scan.masks.lookup id = some length →
    ∃ mask ∈ program.plaintextMasks, mask.maskId = id
  nodes : scan.nodes = before

theorem Produced.mono {before : List CloudNode} {id : String} {sort other : CloudNode → Bool}
    (produced : Produced before id sort) (weaker : ∀ node, sort node = true → other node = true)
    (more : List CloudNode) : Produced (before ++ more) id other := by
  obtain ⟨node,member,sorted,computes,named⟩ := produced
  exact ⟨node,List.mem_append_left _ member,weaker node sorted,computes,named⟩

private theorem Produced.of_producer {nodes : List CloudNode} {id : String} {sort : CloudNode → Bool}
    (found : (producer nodes id).any sort = true) : Produced nodes id sort := by
  cases hit : producer nodes id with
  | none => simp [hit] at found
  | some node =>
    rw [hit] at found
    have holds := List.find?_some hit
    simp only [Bool.and_eq_true,Bool.not_eq_true',beq_iff_eq] at holds
    exact ⟨node,List.mem_of_find?_eq_some hit,found,holds.1,holds.2⟩

section Step
variable {program : CloudProgram} {before : List CloudNode} {scan : Scan}

theorem Seen.available (seen : Seen program before scan) {id field : String}
    {entry : ℕ × Option CiphertextRole} (read : requireCiphertext scan id field = .ok entry) :
    Available program.ciphertextInputs before id ∧
    ∀ role, entry.2 = some role →
      ∃ operand ∈ program.ciphertextInputs, operand.ciphertextId = id ∧ operand.role = role := by
  rw [requireCiphertext,Checked.then_success] at read
  obtain ⟨_,read⟩ := read
  cases found : scan.ciphertexts.lookup id with
  | none => simp [found] at read
  | some held =>
    simp only [found,pure,Except.pure,Except.ok.injEq] at read
    subst read
    rcases seen.ciphertexts id held found with ⟨operand,member,named,roled⟩ | ⟨plain,produced⟩
    · refine ⟨.inl ⟨operand,member,named⟩,?_⟩
      intro role has
      exact ⟨operand,member,named,Option.some.inj (roled.symm.trans has)⟩
    · refine ⟨.inr produced,?_⟩
      intro role has
      rw [plain] at has
      cases has

theorem Seen.fresh (seen : Seen program before scan) (node : CloudNode)
    (fresh : node.resultId ∉ scan.declared) :
    (program.ciphertextInputs.map CiphertextInput.ciphertextId ++
      program.plaintextMasks.map PlaintextMask.maskId ++
      (before ++ [node]).map CloudNode.resultId).Nodup := by
  rw [List.map_append,← List.append_assoc,List.map_singleton]
  refine List.Nodup.append seen.distinct (List.nodup_singleton _) ?_
  intro id old new
  rw [List.mem_singleton.mp new] at old
  exact fresh (seen.declared _ old)

theorem Seen.define (seen : Seen program before scan) {length : ℕ} {node : CloudNode} {next : Scan}
    (computes : node.isReturn = false) (defined : defineResult scan length node = .ok next) :
    Seen program (before ++ [node]) next := by
  simp only [defineResult,Checked.then_success,Checked.require_success] at defined
  obtain ⟨_,fresh,stepped⟩ := defined
  cases stepped
  refine ⟨?_,seen.fresh node fresh,?_,seen.masks,by simp [seen.nodes]⟩
  · intro id member
    rw [List.map_append,← List.append_assoc] at member
    rcases List.mem_append.mp member with old | new
    · exact List.mem_cons_of_mem _ (seen.declared id old)
    · simp_all
  · intro id entry found
    rw [Dict.lookup_cons_eq] at found
    split at found
    · rename_i same
      cases found
      exact .inr ⟨rfl,node,by simp,rfl,computes,same.symm⟩
    · rcases seen.ciphertexts id entry found with declared | ⟨plain,produced⟩
      · exact .inl declared
      · exact .inr ⟨plain,produced.mono (fun _ holds => holds) [node]⟩

/-- One node further: the scan has seen it, and it stands where its operands are. -/
theorem Seen.step (seen : Seen program before scan) (required : Option (List String))
    (node : CloudNode) (next : Scan)
    (run : scanNode program.rotationCatalog required scan node = .ok next) :
    Seen program (before ++ [node]) next ∧ Sited program required before node := by
  cases node with
  | multiplyCiphertexts resultId leftId rightId =>
    simp only [scanNode,Checked.bind_success,Checked.require_success] at run
    obtain ⟨left,readLeft,right,readRight,_,_,_,roles,defined⟩ := run
    refine ⟨seen.define rfl defined,?_⟩
    rcases roles with ⟨value,query⟩ | ⟨query,value⟩
    · obtain ⟨one,hone,named,roled⟩ := (seen.available readLeft).2 _ value
      obtain ⟨two,htwo,called,cast⟩ := (seen.available readRight).2 _ query
      exact ⟨one,hone,two,htwo,named,called,.inl ⟨roled,cast⟩⟩
    · obtain ⟨one,hone,named,roled⟩ := (seen.available readLeft).2 _ query
      obtain ⟨two,htwo,called,cast⟩ := (seen.available readRight).2 _ value
      exact ⟨one,hone,two,htwo,named,called,.inr ⟨roled,cast⟩⟩
  | relinearize resultId ciphertextId =>
    simp only [scanNode,Checked.bind_success,Checked.require_success] at run
    obtain ⟨source,_,_,produced,defined⟩ := run
    refine ⟨seen.define rfl defined,?_⟩
    rw [seen.nodes] at produced
    exact Produced.of_producer produced
  | rotate resultId ciphertextId logicalShift openfheIndex =>
    simp only [scanNode,Checked.bind_success,Checked.require_success] at run
    obtain ⟨source,read,_,_,_,_,_,listed,defined⟩ := run
    exact ⟨seen.define rfl defined,(seen.available read).1,listed⟩
  | multiplyPlaintextMask resultId ciphertextId maskId =>
    simp only [scanNode,Checked.bind_success,requireId_success] at run
    obtain ⟨source,read,_,_,run⟩ := run
    cases found : scan.masks.lookup maskId with
    | none => simp [found] at run
    | some length =>
      rw [found] at run
      simp only [Checked.then_success,Checked.require_success] at run
      exact ⟨seen.define rfl run.2,(seen.available read).1,seen.masks maskId length found⟩
  | addCiphertexts resultId leftId rightId =>
    simp only [scanNode,Checked.bind_success,Checked.require_success] at run
    obtain ⟨left,readLeft,right,readRight,_,_,defined⟩ := run
    exact ⟨seen.define rfl defined,(seen.available readLeft).1,(seen.available readRight).1⟩
  | addF1MMask resultId ciphertextId maskCiphertextId maskRole =>
    simp only [scanNode,Checked.bind_success,Checked.require_success] at run
    obtain ⟨source,read,mask,readMask,_,roled,_,_,_,_,defined⟩ := run
    exact ⟨seen.define rfl defined,(seen.available read).1,(seen.available readMask).2 _ roled⟩
  | returnResult resultId ciphertextId =>
    simp only [scanNode,Checked.bind_success,Checked.require_success,requireId_success] at run
    obtain ⟨_,_,source,_,_,fresh,_,masked,_,bare,_,final,stepped⟩ := run
    cases stepped
    rw [seen.nodes] at masked final
    refine ⟨⟨?_,seen.fresh (.returnResult resultId ciphertextId) fresh,?_,seen.masks,by simp [seen.nodes]⟩,?_⟩
    · intro id member
      rw [List.map_append,← List.append_assoc] at member
      rcases List.mem_append.mp member with old | new
      · exact List.mem_cons_of_mem _ (seen.declared id old)
      · rw [List.map_singleton,List.mem_singleton] at new
        rw [new]
        exact List.mem_cons_self
    · intro id entry found
      rcases seen.ciphertexts id entry found with declared | ⟨plain,produced⟩
      · exact .inl declared
      · exact .inr ⟨plain,produced.mono (fun _ holds => holds) _⟩
    · show Produced before ciphertextId fun node =>
        if requiresMask required resultId then node.isAddF1M else isFinal node
      cases asks : requiresMask required resultId with
      | true => exact Produced.of_producer (masked asks)
      | false => exact Produced.of_producer (final asks)

theorem Seen.run (required : Option (List String)) (nodes : List CloudNode)
    (seen : Seen program before scan) (final : Scan)
    (run : nodes.foldlM (scanNode program.rotationCatalog required) scan = .ok final) :
    Seen program (before ++ nodes) final ∧ ∀ early node late, nodes = early ++ node :: late →
      Sited program required (before ++ early) node := by
  induction nodes generalizing before scan with
  | nil =>
    cases run
    exact ⟨by simpa using seen,by simp⟩
  | cons head tail ih =>
    rw [List.foldlM_cons,Checked.bind_success] at run
    obtain ⟨middle,first,rest⟩ := run
    obtain ⟨next,sited⟩ := seen.step required head middle first
    obtain ⟨whole,later⟩ := ih next rest
    refine ⟨by simpa using whole,?_⟩
    intro early node late cut
    cases early with
    | nil =>
      obtain ⟨rfl,_⟩ := List.cons.inj cut
      simpa using sited
    | cons front early =>
      obtain ⟨same,behind⟩ := List.cons.inj cut
      rw [← same]
      simpa using later early node late behind

end Step

theorem Seen.start {program : CloudProgram} {middle start : Scan}
    (inputs : program.ciphertextInputs.foldlM (scanInput program.slotCount) ⟨[],[],[],[]⟩ = .ok middle)
    (masks : program.plaintextMasks.foldlM (scanMask program.slotCount) middle = .ok start) :
    Seen program [] start := by
  obtain ⟨_,apart,rfl⟩ := scanInputs_read _ _ _ _ inputs
  obtain ⟨fresh,differ,rfl⟩ := scanMasks_read _ _ _ _ masks
  refine ⟨?_,?_,?_,?_,rfl⟩
  · intro id member
    simp only [List.map_nil,List.append_nil,List.mem_append] at member
    simpa using member.symm
  · rw [List.map_nil,List.append_nil]
    refine List.Nodup.append apart differ ?_
    intro id declared again
    obtain ⟨mask,member,rfl⟩ := List.mem_map.mp again
    exact (fresh mask member).2.2 (by simpa using declared)
  · intro id entry found
    have member := Dict.mem_of_lookup found
    simp only [List.append_nil,List.mem_reverse,List.mem_map] at member
    obtain ⟨operand,inside,same⟩ := member
    obtain ⟨rfl,rfl⟩ := Prod.mk.inj same
    exact .inl ⟨operand,inside,rfl,rfl⟩
  · intro id length found
    have member := Dict.mem_of_lookup found
    simp only [List.append_nil,List.mem_reverse,List.mem_map] at member
    obtain ⟨mask,inside,same⟩ := member
    exact ⟨mask,inside,(Prod.mk.inj same).1⟩

/-- Everything that the validator checks and that a run of the program rests on. -/
theorem validate_read (program : CloudProgram) (required : Option (List String))
    (accepts : program.validate required = .ok ()) : Accepted program required := by
  rw [validate,Checked.then_success,Checked.then_success,Checked.then_success,Checked.bind_success]
    at accepts
  obtain ⟨_,positive,catalog,middle,inputs,accepts⟩ := accepts
  rw [Checked.bind_success] at accepts
  obtain ⟨start,masks,accepts⟩ := accepts
  rw [Checked.bind_success] at accepts
  obtain ⟨final,nodes,whole⟩ := accepts
  obtain ⟨seen,sited⟩ := (Seen.start inputs masks).run required _ final nodes
  simp only [validateWhole,Checked.then_success,Checked.require_success,Checked.each_success] at whole
  obtain ⟨_,results,_,returned,added,read,_⟩ := whole
  rw [validateRotationCatalog,Checked.eachDistinct_success] at catalog
  rw [Checked.require_success] at positive
  refine ⟨positive,catalog.1,by simpa [ids] using seen.distinct,?_,?_,by simpa using sited,results,
    returned,added,?_⟩
  · intro operand member
    exact ((scanInputs_read _ _ _ _ inputs).1 operand member).1
  · intro mask member
    obtain ⟨long,values,_⟩ := (scanMasks_read _ _ _ _ masks).1 mask member
    exact ⟨long,values⟩
  · intro operand member role
    exact (read operand member).2 role

end DynamicCssc.CloudProgram
