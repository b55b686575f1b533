import DynamicCssc.OracleRuns

/-! A program whose every result is masked hides what it computes: for fixed values and queries, the
returned vectors are a bijective image of the mask vectors. -/
namespace DynamicCssc
open Foundation CloudProgram

namespace CloudProgram

def f1mIds (program : CloudProgram) : List String :=
  (program.ciphertextInputs.filter fun operand => operand.role = .f1mMask).map
    CiphertextInput.ciphertextId

private theorem mem_f1mIds {program : CloudProgram} {id : String} : id ∈ program.f1mIds ↔
    ∃ operand ∈ program.ciphertextInputs, operand.role = .f1mMask ∧ operand.ciphertextId = id := by
  simp [f1mIds,and_assoc]

private theorem consumers_single {nodes : List CloudNode} {id : String} {reader : CloudNode}
    (single : consumers nodes id = [reader]) (node : CloudNode) (member : node ∈ nodes)
    (reads : id ∈ node.dependencies) : node = reader ∧ node.dependencies.count id = 1 := by
  have part : List.Sublist ((node.dependencies.filter fun dependency => dependency = id).map fun _ => node)
      (consumers nodes id) := by
    rw [consumers,List.flatMap_def]
    exact List.sublist_flatten_of_mem (List.mem_map.mpr ⟨node,member,rfl⟩)
  have there : node ∈ (node.dependencies.filter fun dependency => dependency = id).map fun _ => node :=
    List.mem_map.mpr ⟨id,by simpa using reads,rfl⟩
  rw [single] at part
  refine ⟨by simpa using part.subset there,?_⟩
  have short : (node.dependencies.filter fun dependency => dependency = id).length ≤ 1 := by
    simpa using part.length_le
  have many : 0 < node.dependencies.count id := List.count_pos_iff.mpr reads
  rw [List.count_eq_countP,List.countP_eq_length_filter] at many ⊢
  simp only [beq_eq_decide] at many ⊢
  omega

section Accepted
variable {program : CloudProgram} {required : Option (List String)}

private theorem Accepted.f1m_reader (accepted : Accepted program required) {operand : CiphertextInput}
    (member : operand ∈ program.ciphertextInputs) (role : operand.role = .f1mMask) :
    ∀ node ∈ program.nodes, operand.ciphertextId ∈ node.dependencies →
      maskCiphertext node = some operand.ciphertextId ∧
      node.dependencies.count operand.ciphertextId = 1 := by
  have read := accepted.f1m_read operand member role
  rw [onlyConsumer] at read
  split at read
  · rename_i reader single
    intro node inside reads
    obtain ⟨same,once⟩ := consumers_single single node inside reads
    rw [same] at once ⊢
    exact ⟨by simpa using read,once⟩
  · cases read

private theorem Accepted.inputs_nodup (accepted : Accepted program required) :
    (program.ciphertextInputs.map CiphertextInput.ciphertextId).Nodup :=
  (List.nodup_append.mp (List.nodup_append.mp accepted.ids_nodup).1).1

private theorem Accepted.results_nodup (accepted : Accepted program required) :
    (program.nodes.map CloudNode.resultId).Nodup :=
  (List.nodup_append.mp accepted.ids_nodup).2.1

private theorem Accepted.f1mIds_nodup (accepted : Accepted program required) : program.f1mIds.Nodup :=
  accepted.inputs_nodup.sublist (List.filter_sublist.map _)

private theorem Accepted.mask_operand (accepted : Accepted program required) {node : CloudNode} {id : String}
    (member : node ∈ program.nodes) (masks : maskCiphertext node = some id) : id ∈ program.f1mIds := by
  obtain ⟨before,after,cut⟩ := List.append_of_mem member
  have sited := accepted.sited before node after cut
  cases node with
  | addF1MMask resultId ciphertextId maskCiphertextId maskRole =>
    cases masks
    obtain ⟨_,operand,inside,named,role⟩ := sited
    exact mem_f1mIds.mpr ⟨operand,inside,role,named⟩
  | _ => cases masks

private theorem length_filterMap_mask (nodes : List CloudNode) :
    (nodes.filterMap maskCiphertext).length = (nodes.filter CloudNode.isAddF1M).length := by
  have same : ∀ node, (maskCiphertext node).isSome = node.isAddF1M := by
    intro node
    cases node <;> rfl
  rw [List.length_filterMap_eq_countP,List.countP_eq_length_filter]
  simp only [same]

private theorem Accepted.f1m_additions (accepted : Accepted program required) :
    program.f1mIds.length = (program.nodes.filter CloudNode.isAddF1M).length := by
  rw [← length_filterMap_mask]
  refine (List.perm_iff_count.mpr ?_).length_eq
  intro id
  by_cases declared : id ∈ program.f1mIds
  · obtain ⟨operand,member,role,rfl⟩ := mem_f1mIds.mp declared
    rw [accepted.f1m_added operand member role,List.count_eq_one_of_mem accepted.f1mIds_nodup declared]
  · rw [List.count_eq_zero_of_not_mem declared,List.count_eq_zero_of_not_mem]
    intro added
    obtain ⟨node,member,masks⟩ := List.mem_filterMap.mp added
    exact declared (accepted.mask_operand member masks)

end Accepted

theorem Accepted.returned (accepted : Accepted program none) {resultId ciphertextId : String}
    (member : (resultId,ciphertextId) ∈ returnNodes program.nodes) :
    ∃ node ∈ program.nodes, node.isAddF1M = true ∧ node.resultId = ciphertextId := by
  obtain ⟨before,after,cut⟩ := List.append_of_mem ((mem_returnNodes _ _ _).mp member)
  obtain ⟨node,early,masked,_,named⟩ := accepted.sited before _ after cut
  exact ⟨node,by simp [cut,early],by simpa [requiresMask] using masked,named⟩

/-- Every masked addition is returned once, and nothing else is. -/
private theorem Accepted.returned_additions (accepted : Accepted program none) :
    program.resultIds.length = (program.nodes.filter CloudNode.isAddF1M).length := by
  have distinct : ((program.nodes.filter CloudNode.isAddF1M).map CloudNode.resultId).Nodup :=
    accepted.results_nodup.sublist (List.filter_sublist.map _)
  have same : ((returnNodes program.nodes).map Prod.snd).Perm
      ((program.nodes.filter CloudNode.isAddF1M).map CloudNode.resultId) := by
    refine List.perm_iff_count.mpr fun id => ?_
    by_cases added : id ∈ (program.nodes.filter CloudNode.isAddF1M).map CloudNode.resultId
    · rw [List.count_eq_one_of_mem distinct added]
      obtain ⟨node,member,rfl⟩ := List.mem_map.mp added
      obtain ⟨inside,masked⟩ := List.mem_filter.mp member
      exact accepted.f1m_returned node inside masked
    · rw [List.count_eq_zero_of_not_mem added,List.count_eq_zero_of_not_mem]
      intro again
      obtain ⟨entry,member,rfl⟩ := List.mem_map.mp again
      obtain ⟨node,inside,masked,named⟩ := accepted.returned member
      exact added (List.mem_map.mpr ⟨node,List.mem_filter.mpr ⟨inside,masked⟩,named⟩)
  rw [accepted.results]
  simpa using same.length_eq

end CloudProgram

namespace PlaintextOracle

/-! Vectors of residues, and the lists of integers that the oracle holds for them. -/

def shown {width modulus : ℕ} (row : Fin width → ZMod modulus) : List ℤ :=
  List.ofFn fun lane => ((row lane).val : ℤ)

def residues (width modulus : ℕ) (values : List ℤ) (lane : Fin width) : ZMod modulus :=
  ((values.getD lane 0 : ℤ) : ZMod modulus)

section Residues
variable {width modulus : ℕ} [NeZero modulus]

@[simp] theorem shown_length (row : Fin width → ZMod modulus) : (shown row).length = width := by
  simp [shown]

private theorem shown_residues (values : List ℤ) (long : values.length = width)
    (small : ∀ value ∈ values, value % modulus = value) : shown (residues width modulus values) = values := by
  refine List.ext_getElem (by simp [long]) ?_
  intro lane _ inside
  have same := small values[lane] (List.getElem_mem inside)
  simp [shown,residues,ZMod.coe_intCast,inside,same]

private theorem shown_injective : Function.Injective (shown : (Fin width → ZMod modulus) → List ℤ) := by
  intro left right same
  funext lane
  have entry := congrFun (List.ofFn_injective same) lane
  exact ZMod.val_injective modulus (Int.ofNat_inj.mp entry)

private theorem shown_small (row : Fin width → ZMod modulus) : ∀ value ∈ shown row, value % modulus = value := by
  intro value member
  obtain ⟨lane,rfl⟩ := (List.mem_ofFn' _ _).mp member
  have small : ((row lane).val : ℤ) < modulus := by exact_mod_cast ZMod.val_lt (row lane)
  exact Int.emod_eq_of_lt (by positivity) small

private theorem reduced_shown (row : Fin width → ZMod modulus) : reduced modulus (shown row) = shown row := by
  rw [reduced,List.map_congr_left (shown_small row)]
  simp

end Residues

private theorem combined_add_cancel {modulus : ℕ} (source left right : List ℤ)
    (longLeft : left.length = source.length) (longRight : right.length = source.length)
    (smallLeft : ∀ value ∈ left, value % modulus = value)
    (smallRight : ∀ value ∈ right, value % modulus = value)
    (same : combined (· + ·) modulus source left = combined (· + ·) modulus source right) :
    left = right := by
  refine List.ext_getElem (longLeft.trans longRight.symm) ?_
  intro lane inLeft inRight
  have entry := congrArg (fun values : List ℤ => values[lane]?) same
  have inSource : lane < source.length := longLeft ▸ inLeft
  simp only [combined,List.getElem?_map,List.zip_eq_zipWith,
    List.getElem?_zipWith,List.getElem?_eq_getElem inLeft,List.getElem?_eq_getElem inRight,
    List.getElem?_eq_getElem inSource,Option.map_some,Option.some.injEq] at entry
  have apart : left[lane] % (modulus : ℤ) = right[lane] % modulus := Int.ModEq.add_left_cancel' _ entry
  rw [← smallLeft _ (List.getElem_mem inLeft),apart,smallRight _ (List.getElem_mem inRight)]

private theorem combined_small (operation : ℤ → ℤ → ℤ) (modulus : ℕ) (left right : List ℤ) :
    ∀ value ∈ combined operation modulus left right, value % modulus = value := by
  intro value member
  obtain ⟨pair,_,rfl⟩ := List.mem_map.mp member
  exact Int.emod_emod_of_dvd _ (dvd_refl _)

/-! Two runs with the same values and queries. -/

section Agreement
variable {program : CloudProgram} {masks : Vectors} {modulus : ℕ}
  {first second : String → Option (List ℤ)}

private theorem available_agree {before : List CloudNode} {id : String}
    (available : Available program.ciphertextInputs before id) (plain : id ∉ program.f1mIds)
    (inputs : ∀ operand ∈ program.ciphertextInputs, operand.role ≠ .f1mMask →
      first operand.ciphertextId = second operand.ciphertextId)
    (computed : ∀ node ∈ before, node.isReturn = false → first node.resultId = second node.resultId) :
    first id = second id := by
  rcases available with ⟨operand,member,rfl⟩ | ⟨node,member,_,computes,rfl⟩
  · refine inputs operand member fun role => ?_
    exact plain (mem_f1mIds.mpr ⟨operand,member,role,rfl⟩)
  · exact computed node member computes

private theorem source_plain {required : Option (List String)} (accepted : Accepted program required)
    {node : CloudNode} (member : node ∈ program.nodes) {id : String} (reads : id ∈ node.dependencies)
    (other : maskCiphertext node ≠ some id) : id ∉ program.f1mIds := by
  intro declared
  obtain ⟨operand,inside,role,rfl⟩ := mem_f1mIds.mp declared
  exact other (accepted.f1m_reader inside role node member reads).1

private theorem hidden_plain {required : Option (List String)} (accepted : Accepted program required)
    {resultId ciphertextId maskCiphertextId maskRole : String}
    (member : CloudNode.addF1MMask resultId ciphertextId maskCiphertextId maskRole ∈ program.nodes) :
    ciphertextId ∉ program.f1mIds := by
  intro declared
  obtain ⟨operand,inside,role,rfl⟩ := mem_f1mIds.mp declared
  obtain ⟨same,once⟩ := accepted.f1m_reader inside role _ member (by simp [CloudNode.dependencies])
  cases same
  simp [CloudNode.dependencies] at once

private theorem sources_dependencies {node : CloudNode} {id : String} (computes : node.isReturn = false)
    (reads : id ∈ ciphertextSources node) : id ∈ node.dependencies := by
  cases node <;> simp_all [ciphertextSources,CloudNode.dependencies,CloudNode.isReturn]

/-- A node that adds no mask makes the same of the same. -/
private theorem unmasked_agree {required : Option (List String)} (accepted : Accepted program required)
    (solvedFirst : ∀ node ∈ program.nodes, Equation masks modulus first node)
    (solvedSecond : ∀ node ∈ program.nodes, Equation masks modulus second node)
    {node : CloudNode} (member : node ∈ program.nodes) (computes : node.isReturn = false)
    (bare : maskCiphertext node = none)
    (agree : ∀ id ∈ ciphertextSources node, id ∉ program.f1mIds → first id = second id) :
    first node.resultId = second node.resultId := by
  rw [(solvedFirst node member).2 computes,(solvedSecond node member).2 computes]
  refine outcome_local second first node fun id reads => agree id reads ?_
  exact source_plain accepted member (sources_dependencies computes reads) (by simp [bare])

private theorem addition_returned {required : Option (List String)}
    (accepted : Accepted program required) {node : CloudNode} (member : node ∈ program.nodes)
    (masked : node.isAddF1M = true) : ∃ entry ∈ returnNodes program.nodes, entry.2 = node.resultId := by
  have once := accepted.f1m_returned node member masked
  have there : node.resultId ∈ (returnNodes program.nodes).map Prod.snd :=
    List.count_pos_iff.mp (by omega)
  obtain ⟨entry,inside,same⟩ := List.mem_map.mp there
  exact ⟨entry,inside,same⟩

/-- By induction along the program: where the returned vectors agree, so do all computed vectors and
all masks. -/
private theorem agree_before (accepted : Accepted program none)
    (solvedFirst : ∀ node ∈ program.nodes, Equation masks modulus first node)
    (solvedSecond : ∀ node ∈ program.nodes, Equation masks modulus second node)
    (inputs : ∀ operand ∈ program.ciphertextInputs, operand.role ≠ .f1mMask →
      first operand.ciphertextId = second operand.ciphertextId)
    (unmask : ∀ resultId ciphertextId maskCiphertextId maskRole,
      CloudNode.addF1MMask resultId ciphertextId maskCiphertextId maskRole ∈ program.nodes →
      first ciphertextId = second ciphertextId → first resultId = second resultId →
      first maskCiphertextId = second maskCiphertextId)
    (returned : ∀ entry ∈ returnNodes program.nodes, first entry.2 = second entry.2)
    (before after : List CloudNode) (cut : program.nodes = before ++ after) :
    (∀ node ∈ before, node.isReturn = false → first node.resultId = second node.resultId) ∧
    ∀ node ∈ before, ∀ id, maskCiphertext node = some id → first id = second id := by
  induction before using List.reverseRecOn generalizing after with
  | nil => exact ⟨by simp,by simp⟩
  | append_singleton before last ih =>
    obtain ⟨computed,masked⟩ := ih (last :: after) (by simpa using cut)
    have member : last ∈ program.nodes := by simp [cut]
    have sited := accepted.sited before last after (by simpa using cut)
    have agree : ∀ id, id ∈ ciphertextSources last → id ∉ program.f1mIds → first id = second id :=
      fun id reads plain => available_agree (sited_reads sited id reads) plain inputs computed
    have lastly : (last.isReturn = false → first last.resultId = second last.resultId) ∧
        ∀ id, maskCiphertext last = some id → first id = second id := by
      cases last with
      | addF1MMask resultId ciphertextId maskCiphertextId maskRole =>
        obtain ⟨entry,inside,same⟩ := addition_returned accepted member rfl
        have hidden := agree ciphertextId (by simp [ciphertextSources]) (hidden_plain accepted member)
        have sums : first resultId = second resultId := by
          have shares := returned entry inside
          rw [same] at shares
          exact shares
        refine ⟨fun _ => sums,fun id masks => ?_⟩
        cases masks
        exact unmask _ _ _ _ member hidden sums
      | returnResult resultId ciphertextId =>
        refine ⟨fun computes => ?_,fun id masks => ?_⟩
        · cases computes
        · cases masks
      | _ =>
        refine ⟨fun computes => ?_,fun id masks => by cases masks⟩
        exact unmasked_agree accepted solvedFirst solvedSecond member computes rfl agree
    refine ⟨?_,?_⟩
    · intro node inside computes
      rcases List.mem_append.mp inside with early | late
      · exact computed node early computes
      · rw [List.mem_singleton] at late
        subst late
        exact lastly.1 computes
    · intro node inside id masks
      rcases List.mem_append.mp inside with early | late
      · exact masked node early id masks
      · rw [List.mem_singleton] at late
        subst late
        exact lastly.2 id masks

end Agreement

/-! The inputs of a run, as a function of the masks. -/

/-- The fixed vectors, with a drawn vector for each mask operand. -/
def suppliedVectors (program : CloudProgram) {modulus : ℕ} (fixed : String → List ℤ)
    (draw : Fin program.f1mIds.length → Fin program.slotCount → ZMod modulus) : Vectors :=
  program.ciphertextInputs.map fun operand => (operand.ciphertextId,
    if place : program.f1mIds.idxOf operand.ciphertextId < program.f1mIds.length then
      shown (draw ⟨_,place⟩)
    else fixed operand.ciphertextId)

def committedMasks (program : CloudProgram) : Vectors :=
  program.plaintextMasks.map fun mask => (mask.maskId,mask.values)

section Supply
variable {program : CloudProgram} {required : Option (List String)} {modulus : ℕ}
  {fixed : String → List ℤ} (draw : Fin program.f1mIds.length → Fin program.slotCount → ZMod modulus)

private theorem lookup_supplied (accepted : Accepted program required) {operand : CiphertextInput}
    (member : operand ∈ program.ciphertextInputs) :
    (suppliedVectors program fixed draw).lookup operand.ciphertextId =
      some (if place : program.f1mIds.idxOf operand.ciphertextId < program.f1mIds.length then
        shown (draw ⟨_,place⟩) else fixed operand.ciphertextId) := by
  refine (Dict.lookup_eq_some_iff _ ?_ _ _).mpr (List.mem_map.mpr ⟨operand,member,rfl⟩)
  simpa [suppliedVectors,Function.comp_def] using accepted.inputs_nodup

private theorem lookup_fixed (accepted : Accepted program required) {operand : CiphertextInput}
    (member : operand ∈ program.ciphertextInputs) (role : operand.role ≠ .f1mMask) :
    (suppliedVectors program fixed draw).lookup operand.ciphertextId =
      some (fixed operand.ciphertextId) := by
  rw [lookup_supplied draw accepted member,dif_neg]
  rw [List.idxOf_lt_length_iff,mem_f1mIds]
  intro found
  obtain ⟨other,inside,masks,same⟩ := found
  exact role ((List.inj_on_of_nodup_map accepted.inputs_nodup inside member same) ▸ masks)

private theorem lookup_drawn (accepted : Accepted program required) (place : Fin program.f1mIds.length) :
    (suppliedVectors program fixed draw).lookup (program.f1mIds.get place) = some (shown (draw place)) := by
  obtain ⟨operand,member,role,named⟩ := mem_f1mIds.mp (List.get_mem program.f1mIds place)
  have here : program.f1mIds.idxOf operand.ciphertextId = place := by
    rw [named]
    exact List.get_idxOf accepted.f1mIds_nodup place
  rw [← named,lookup_supplied draw accepted member]
  simp [here]

end Supply

/-! The whole run. -/

private theorem results_eq (nodes : List CloudNode) (env : String → Option (List ℤ)) :
    nodes.flatMap (emits env) = (returnNodes nodes).map fun entry => (entry.1,(env entry.2).getD []) := by
  induction nodes with
  | nil => rfl
  | cons node nodes ih =>
    rw [List.flatMap_cons,ih]
    cases node <;> simp [emits,returnNodes]

/-- What a node finds when its turn comes. -/
structure SafeAt (rotations : List (ℤ × ℤ)) (masks : Vectors) (width : ℕ) (state : Execution)
    (node : CloudNode) : Prop where
  fresh : Free state node.resultId
  reads : ∀ source ∈ ciphertextSources node, ∃ values,
    state.ciphertexts.lookup source = some values ∧ values.length = width
  known : Known rotations masks width node

private theorem Supplied.of_suppliedVectors {program : CloudProgram} {required : Option (List String)}
    {modulus : ℕ} {fixed : String → List ℤ} (accepted : Accepted program required)
    (lengths : ∀ operand ∈ program.ciphertextInputs, operand.role ≠ .f1mMask →
      (fixed operand.ciphertextId).length = program.slotCount)
    (draw : Fin program.f1mIds.length → Fin program.slotCount → ZMod modulus) :
    Supplied program (suppliedVectors program fixed draw) (committedMasks program) := by
  have keys : (suppliedVectors program fixed draw).map Prod.fst =
      program.ciphertextInputs.map CiphertextInput.ciphertextId := by
    simp [suppliedVectors,Function.comp_def]
  have maskKeys : (committedMasks program).map Prod.fst =
      program.plaintextMasks.map PlaintextMask.maskId := by
    simp [committedMasks,Function.comp_def]
  refine ⟨?_,?_,?_,?_⟩
  · rw [SameIds,keys]
    exact ⟨fun _ member => member,fun _ member => member⟩
  · intro operand member values found
    rw [accepted.inputs operand member]
    by_cases role : operand.role = .f1mMask
    · obtain ⟨place,same⟩ := List.get_of_mem (mem_f1mIds.mpr ⟨operand,member,role,rfl⟩)
      rw [← same,lookup_drawn draw accepted place] at found
      cases found
      simp [shown]
    · rw [lookup_fixed draw accepted member role] at found
      cases found
      exact lengths operand member role
  · rw [SameIds,maskKeys]
    exact ⟨fun _ member => member,fun _ member => member⟩
  · intro mask member values found
    have distinct : ((committedMasks program).map Prod.fst).Nodup := by
      rw [maskKeys]
      exact (List.nodup_append.mp (List.nodup_append.mp accepted.ids_nodup).1).2.1
    rw [(Dict.lookup_eq_some_iff _ distinct mask.maskId mask.values).mpr
      (List.mem_map.mpr ⟨mask,member,rfl⟩)] at found
    cases found
    rfl

section Whole
variable {plan : CloudExecutionPlan} {required : Option (List String)}
  {ciphertextInputs plaintextMasks : Vectors} {modulus : ℕ}

theorem execute_ok (accepted : Accepted plan.program required)
    (inside : ∀ entry ∈ plan.program.rotationCatalog, entry.2.natAbs < plan.program.slotCount)
    (supplied : Supplied plan.program ciphertextInputs plaintextMasks) :
    ∃ state, executeValidatedCloudPlan plan ciphertextInputs plaintextMasks modulus =
        .ok ((returnNodes plan.program.nodes).map fun entry =>
          (entry.1,(state.ciphertexts.lookup entry.2).getD [])) ∧
      Even plan.program.slotCount state ∧
      (∀ operand ∈ plan.program.ciphertextInputs, state.ciphertexts.lookup operand.ciphertextId =
        (loaded plan.program ciphertextInputs modulus).lookup operand.ciphertextId) ∧
      ∀ node ∈ plan.program.nodes, Equation (loadedMasks plan.program modulus) modulus
        (fun id => state.ciphertexts.lookup id) node := by
  obtain ⟨state,run,even,frame,solved,output⟩ := @run_before plan.program required ciphertextInputs
    plaintextMasks modulus accepted supplied plan.program.nodes [] (by simp)
  refine ⟨state,?_,even,?_,solved⟩
  · rw [executeValidatedCloudPlan,prepare_ok accepted inside supplied,Checked.ok_bind]
    dsimp only
    rw [rotationTable_eq accepted,run,Checked.ok_bind,output,results_eq]
    rfl
  · intro operand member
    refine (frame _ fun written => ?_).1
    have apart := (List.nodup_append.mp accepted.ids_nodup).2.2
    exact apart _ (List.mem_append_left _ (List.mem_map.mpr ⟨operand,member,rfl⟩)) _ written rfl

/-- Every node is safe when its turn comes. -/
private theorem safe_at (accepted : Accepted plan.program required)
    (supplied : Supplied plan.program ciphertextInputs plaintextMasks) (before after : List CloudNode)
    (node : CloudNode) (cut : plan.program.nodes = before ++ node :: after) :
    ∃ state, before.foldlM (executeNode plan.program.rotationCatalog (loadedMasks plan.program modulus)
        modulus) ⟨loaded plan.program ciphertextInputs modulus,[]⟩ = .ok state ∧
      SafeAt plan.program.rotationCatalog (loadedMasks plan.program modulus) plan.program.slotCount
        state node := by
  obtain ⟨state,run,even,frame,solved,_⟩ := @run_before plan.program required ciphertextInputs
    plaintextMasks modulus accepted supplied before (node :: after) cut
  have distinct := accepted.ids_nodup
  rw [ids] at distinct
  obtain ⟨_,nodesApart,declaredApart⟩ := List.nodup_append.mp distinct
  rw [cut,List.map_append,List.map_cons] at nodesApart declaredApart
  have late : node.resultId ∉ before.map CloudNode.resultId := by
    intro early
    exact (List.nodup_append.mp nodesApart).2.2 _ early _ List.mem_cons_self rfl
  refine ⟨state,run,?_,?_,known accepted node (by simp [cut])⟩
  · refine (frame _ late).2 fun declared => ?_
    exact declaredApart _ (List.mem_append_left _ declared) _
      (List.mem_append_right _ List.mem_cons_self) rfl
  · intro source reads
    have there : ∃ values, state.ciphertexts.lookup source = some values := by
      rcases sited_reads (accepted.sited before node after cut) source reads with
        ⟨operand,member,rfl⟩ | ⟨earlier,member,_,computes,rfl⟩
      · have kept := frame operand.ciphertextId (by
          intro written
          refine declaredApart _ (List.mem_append_left _ (List.mem_map.mpr ⟨operand,member,rfl⟩)) _
            (List.mem_append_left _ written) rfl)
        rw [kept.1]
        exact ⟨_,lookup_loaded accepted operand member⟩
      · have written := (solved earlier member).2 computes
        dsimp only at written
        rw [written]
        exact Option.isSome_iff_exists.mp (solved earlier member).1
    obtain ⟨values,found⟩ := there
    exact ⟨values,found,even source values found⟩

end Whole

section Hiding
variable {plan : CloudExecutionPlan} {modulus : ℕ} {fixed : String → List ℤ}

/-- What a run on drawn masks ends in. -/
structure Ends (plan : CloudExecutionPlan) (fixed : String → List ℤ)
    (draw : Fin plan.program.f1mIds.length → Fin plan.program.slotCount → ZMod modulus)
    (env : String → Option (List ℤ)) : Prop where
  runs : executeValidatedCloudPlan plan (suppliedVectors plan.program fixed draw)
    (committedMasks plan.program) modulus =
      .ok ((returnNodes plan.program.nodes).map fun entry => (entry.1,(env entry.2).getD []))
  even : ∀ id values, env id = some values → values.length = plan.program.slotCount
  drawn : ∀ place, env (plan.program.f1mIds.get place) = some (shown (draw place))
  given : ∀ operand ∈ plan.program.ciphertextInputs, operand.role ≠ .f1mMask →
    env operand.ciphertextId = some (reduced modulus (fixed operand.ciphertextId))
  solved : ∀ node ∈ plan.program.nodes, Equation (loadedMasks plan.program modulus) modulus env node

theorem ends [NeZero modulus] (accepted : Accepted plan.program none)
    (inside : ∀ entry ∈ plan.program.rotationCatalog, entry.2.natAbs < plan.program.slotCount)
    (lengths : ∀ operand ∈ plan.program.ciphertextInputs, operand.role ≠ .f1mMask →
      (fixed operand.ciphertextId).length = plan.program.slotCount)
    (draw : Fin plan.program.f1mIds.length → Fin plan.program.slotCount → ZMod modulus) :
    ∃ env, Ends plan fixed draw env := by
  obtain ⟨state,runs,even,declared,solved⟩ := @execute_ok plan none _ _ modulus accepted inside
    (Supplied.of_suppliedVectors accepted lengths draw)
  refine ⟨fun id => state.ciphertexts.lookup id,runs,even,?_,?_,solved⟩
  · intro place
    obtain ⟨operand,member,_,named⟩ := mem_f1mIds.mp (List.get_mem plan.program.f1mIds place)
    have drawn : (suppliedVectors plan.program fixed draw).lookup (plan.program.f1mIds.get place) =
        some (shown (draw place)) := lookup_drawn draw accepted place
    rw [← named] at drawn ⊢
    rw [declared operand member,lookup_loaded accepted operand member,drawn,Option.getD_some,
      reduced_shown]
  · intro operand member role
    rw [declared operand member,lookup_loaded accepted operand member,
      lookup_fixed draw accepted member role,Option.getD_some]

variable {draw other : Fin plan.program.f1mIds.length → Fin plan.program.slotCount → ZMod modulus}
  {env : String → Option (List ℤ)}

theorem Ends.returned (ends : Ends plan fixed draw env) (accepted : Accepted plan.program none)
    {entry : String × String} (member : entry ∈ returnNodes plan.program.nodes) :
    ∃ values, env entry.2 = some values ∧ values.length = plan.program.slotCount ∧
      ∀ value ∈ values, value % modulus = value := by
  obtain ⟨node,inside,masked,named⟩ := accepted.returned member
  cases node with
  | addF1MMask resultId ciphertextId maskCiphertextId maskRole =>
    obtain ⟨there,equation⟩ := ends.solved _ inside
    obtain ⟨values,makes⟩ := Option.isSome_iff_exists.mp there
    have held := (equation rfl).trans makes
    rw [show (CloudNode.addF1MMask resultId ciphertextId maskCiphertextId maskRole).resultId = entry.2
      from named] at held
    refine ⟨values,held,ends.even _ _ held,?_⟩
    obtain ⟨left,right,_,_,same⟩ := Option.map₂_eq_some_iff.mp makes
    rw [← same]
    exact combined_small _ _ _ _
  | _ => cases masked

/-- A masked addition whose source and sum agree has the same mask. -/
private theorem Ends.unmask [NeZero modulus] {second : String → Option (List ℤ)}
    (ends : Ends plan fixed draw env) (others : Ends plan fixed other second)
    (accepted : Accepted plan.program none) {resultId ciphertextId maskCiphertextId maskRole : String}
    (member : CloudNode.addF1MMask resultId ciphertextId maskCiphertextId maskRole ∈ plan.program.nodes)
    (hidden : env ciphertextId = second ciphertextId) (sums : env resultId = second resultId) :
    env maskCiphertextId = second maskCiphertextId := by
  obtain ⟨place,same⟩ := List.get_of_mem (accepted.mask_operand member rfl)
  have left := (ends.solved _ member).2 rfl
  have right := (others.solved _ member).2 rfl
  obtain ⟨values,makes⟩ := Option.isSome_iff_exists.mp (ends.solved _ member).1
  obtain ⟨source,_,held,_,_⟩ := Option.map₂_eq_some_iff.mp makes
  have found : env ciphertextId = some source := held
  have long := ends.even _ _ found
  simp only [outcome,CloudNode.resultId,← same,ends.drawn place,others.drawn place,← hidden,found,
    Option.map₂_some_some] at left right
  have equal : some _ = some _ := left.symm.trans (sums.trans right)
  rw [← same,ends.drawn place,others.drawn place,combined_add_cancel source _ _ (by simp [long])
    (by simp [long]) (shown_small (draw place)) (shown_small (other place)) (Option.some.inj equal)]

def answered (modulus : ℕ) (program : CloudProgram) (env : String → Option (List ℤ))
    (place : Fin program.resultIds.length) : Fin program.slotCount → ZMod modulus :=
  residues program.slotCount modulus
    ((env (((returnNodes program.nodes).map Prod.snd).getD place "")).getD [])

private theorem Ends.answers [NeZero modulus] (ends : Ends plan fixed draw env)
    (accepted : Accepted plan.program none) :
    executeValidatedCloudPlan plan (suppliedVectors plan.program fixed draw)
      (committedMasks plan.program) modulus = .ok (List.ofFn fun place =>
        (plan.program.resultIds.get place,shown (answered modulus plan.program env place))) := by
  rw [ends.runs]
  congr 1
  have count : plan.program.resultIds.length = (returnNodes plan.program.nodes).length := by
    rw [accepted.results,List.length_map]
  refine List.ext_getElem (by simp [count]) ?_
  intro place inReturns _
  rw [List.length_map] at inReturns
  have member := List.getElem_mem inReturns
  obtain ⟨values,held,long,small⟩ := ends.returned accepted member
  have id : plan.program.resultIds.get ⟨place,by omega⟩ = (returnNodes plan.program.nodes)[place].1 := by
    simp [accepted.results]
  rw [List.get_eq_getElem] at id
  simp [answered,inReturns,held,shown_residues values long small,id]

theorem Ends.injective [NeZero modulus] {second : String → Option (List ℤ)}
    (ends : Ends plan fixed draw env) (others : Ends plan fixed other second)
    (accepted : Accepted plan.program none)
    (same : answered modulus plan.program env = answered modulus plan.program second) : draw = other := by
  have returned : ∀ entry ∈ returnNodes plan.program.nodes, env entry.2 = second entry.2 := by
    intro entry member
    obtain ⟨place,inReturns,here⟩ := List.getElem_of_mem member
    have inIds : place < plan.program.resultIds.length := by
      rw [accepted.results,List.length_map]
      exact inReturns
    obtain ⟨values,held,long,small⟩ := ends.returned accepted member
    obtain ⟨others',heldOther,longOther,smallOther⟩ := others.returned accepted member
    have equal := congrArg shown (congrFun same ⟨place,inIds⟩)
    simp only [answered,List.getD_eq_getElem?_getD,List.getElem?_map,List.getElem?_eq_getElem inReturns,
      here,Option.map_some,Option.getD_some,held,heldOther,shown_residues values long small,
      shown_residues others' longOther smallOther] at equal
    rw [held,heldOther,equal]
  have given : ∀ operand ∈ plan.program.ciphertextInputs, operand.role ≠ .f1mMask →
      env operand.ciphertextId = second operand.ciphertextId := by
    intro operand member role
    rw [ends.given operand member role,others.given operand member role]
  have masks := (agree_before accepted ends.solved others.solved given
    (fun _ _ _ _ member hidden sums => ends.unmask others accepted member hidden sums) returned
    plan.program.nodes [] (by simp)).2
  funext place
  have declared := List.get_mem plan.program.f1mIds place
  obtain ⟨operand,member,role,named⟩ := mem_f1mIds.mp declared
  have added := accepted.f1m_added operand member role
  have positive : 0 < (plan.program.nodes.filterMap maskCiphertext).count operand.ciphertextId := by omega
  obtain ⟨node,inside,masking⟩ := List.mem_filterMap.mp (List.count_pos_iff.mp positive)
  rw [named] at masking
  have equal := masks node inside _ masking
  rw [ends.drawn place,others.drawn place] at equal
  exact shown_injective (Option.some.inj equal)

end Hiding

/-- A program that the strict validator accepts runs to its end on every supply of vectors: each node
finds what it reads, in equal lengths, and writes a new id. For fixed values and queries, the returned
vectors are a bijective image of the mask vectors. -/
theorem strictProgram_executes_and_hides (plan : CloudExecutionPlan) (modulus : ℕ) (two : 2 ≤ modulus)
    (accepts : plan.program.validate none = .ok ())
    (inside : ∀ entry ∈ plan.program.rotationCatalog, entry.2.natAbs < plan.program.slotCount) :
    (∀ ciphertextInputs plaintextMasks, Supplied plan.program ciphertextInputs plaintextMasks →
      (∃ start masks, prepare plan.program ciphertextInputs plaintextMasks modulus = .ok (start,masks) ∧
        ∀ before node after, plan.program.nodes = before ++ node :: after → ∃ state,
          before.foldlM (executeNode (rotationTable plan.program.rotationCatalog) masks modulus) start =
            .ok state ∧
          SafeAt (rotationTable plan.program.rotationCatalog) masks plan.program.slotCount state node) ∧
      ∃ results, executeValidatedCloudPlan plan ciphertextInputs plaintextMasks modulus = .ok results ∧
        results.map Prod.fst = plan.program.resultIds ∧
        ∀ entry ∈ results, entry.2.length = plan.program.slotCount) ∧
    ∀ fixed : String → List ℤ,
      (∀ operand ∈ plan.program.ciphertextInputs, operand.role ≠ .f1mMask →
        (fixed operand.ciphertextId).length = plan.program.slotCount) →
      ∃ answer : (Fin plan.program.f1mIds.length → Fin plan.program.slotCount → ZMod modulus) →
          Fin plan.program.resultIds.length → Fin plan.program.slotCount → ZMod modulus,
        Function.Bijective answer ∧
        ∀ draw, executeValidatedCloudPlan plan (suppliedVectors plan.program fixed draw)
          (committedMasks plan.program) modulus = .ok (List.ofFn fun place =>
            (plan.program.resultIds.get place,shown (answer draw place))) := by
  have accepted := validate_read plan.program none accepts
  have positive : NeZero modulus := ⟨by omega⟩
  refine ⟨?_,?_⟩
  · intro ciphertextInputs plaintextMasks supplied
    refine ⟨⟨_,_,prepare_ok accepted inside supplied,?_⟩,?_⟩
    · intro before node after cut
      rw [rotationTable_eq accepted]
      exact safe_at accepted supplied before after node cut
    · obtain ⟨state,runs,even,_,solved⟩ := @execute_ok plan none _ _ modulus accepted inside supplied
      refine ⟨_,runs,by simp [accepted.results,Function.comp_def],?_⟩
      intro entry member
      obtain ⟨place,inReturns,rfl⟩ := List.mem_map.mp member
      have there := (solved _ ((mem_returnNodes _ _ _).mp inReturns)).1
      obtain ⟨values,held⟩ := Option.isSome_iff_exists.mp there
      have found : state.ciphertexts.lookup place.2 = some values := held
      simp only [found,Option.getD_some]
      exact even _ _ found
  · intro fixed lengths
    choose env runs using @ends plan modulus fixed positive accepted inside lengths
    refine ⟨fun draw => answered modulus plan.program (env draw),?_,fun draw => (runs draw).answers accepted⟩
    have count := accepted.f1m_additions.trans accepted.returned_additions.symm
    refine (Fintype.bijective_iff_injective_and_card _).mpr ⟨?_,by simp [count]⟩
    intro draw other same
    exact (runs draw).injective (runs other) accepted same

/-- The first masked result goes on into the second one. -/
def chainedPlan : CloudExecutionPlan where
  program := {
    format := cloudProgramFormat
    slotCount := 2
    ciphertextInputs := [⟨"value",.value,2⟩,⟨"query",.query,2⟩,⟨"first",.f1mMask,2⟩,⟨"second",.f1mMask,2⟩]
    plaintextMasks := [⟨"selection",2,[1,0]⟩]
    nodes := [.multiplyCiphertexts "product" "value" "query",.relinearize "linear" "product",
      .multiplyPlaintextMask "selected" "linear" "selection",
      .addF1MMask "hidden" "selected" "first" opaqueZeroSum,.returnResult "one" "hidden",
      .rotate "turned" "hidden" 1 (-1),.addF1MMask "again" "turned" "second" opaqueZeroSum,
      .returnResult "two" "again"]
    resultIds := ["one","two"]
    rotationCatalog := [(1,-1)] }
  binding := ⟨executionBindingFormat,"version",zeroDigest,zeroDigest⟩

theorem chainedPlan_hides :
    (∃ results, executeValidatedCloudPlan chainedPlan
      [("value",[2,3]),("query",[1,4]),("first",[-1,7]),("second",[2,2])] [("selection",[1,0])] 5 =
        .ok results ∧ results.map Prod.fst = ["one","two"]) ∧
    ∃ answer : (Fin chainedPlan.program.f1mIds.length → Fin 2 → ZMod 5) → Fin 2 → Fin 2 → ZMod 5,
      Function.Bijective answer ∧
      ∀ draw, executeValidatedCloudPlan chainedPlan
        (suppliedVectors chainedPlan.program (fun _ => [3,1]) draw) [("selection",[1,0])] 5 =
          .ok (List.ofFn fun place => (["one","two"].get place,shown (answer draw place))) := by
  obtain ⟨runs,hides⟩ := strictProgram_executes_and_hides chainedPlan 5 (by decide) (by rfl) (by decide)
  refine ⟨?_,hides (fun _ => [3,1]) (by decide)⟩
  obtain ⟨_,results,runs,ids,_⟩ := runs [("value",[2,3]),("query",[1,4]),("first",[-1,7]),("second",[2,2])]
    [("selection",[1,0])] ⟨by decide,by decide,by decide,by decide⟩
  exact ⟨results,runs,ids⟩

end PlaintextOracle

end DynamicCssc
