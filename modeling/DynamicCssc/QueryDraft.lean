import DynamicCssc.CloudProgramAccepts
import DynamicCssc.QueryCompiler

/-! A program under construction. The invariant of the compilation is stated for the four lists
that the validator reads, and kept by each way they grow. -/
namespace DynamicCssc
open Foundation CloudProgram

structure Draft where
  inputs : List CiphertextInput
  masks : List PlaintextMask
  shifts : List ℕ
  nodes : List CloudNode

namespace Draft

def addInput (draft : Draft) (operand : CiphertextInput) : Draft :=
  { draft with inputs := draft.inputs ++ [operand] }

def addMask (draft : Draft) (mask : PlaintextMask) : Draft :=
  { draft with masks := draft.masks ++ [mask] }

def addShift (draft : Draft) (shift : ℕ) : Draft :=
  { draft with shifts := draft.shifts ++ [shift] }

def addNode (draft : Draft) (node : CloudNode) : Draft :=
  { draft with nodes := draft.nodes ++ [node] }

def ids (draft : Draft) : List String :=
  draft.inputs.map CiphertextInput.ciphertextId ++ draft.masks.map PlaintextMask.maskId ++
    draft.nodes.map CloudNode.resultId

end Draft

/-- The ids of a node follow the naming scheme, as far as one id must determine another. -/
def Shaped : CloudNode → Prop
  | .multiplyCiphertexts resultId leftId rightId => ∃ ordinal,
      resultId = (Name.mk .ssaProduct ordinal none).text ∧
      leftId = (Name.mk .ctValue ordinal none).text ∧ rightId = (Name.mk .ctQuery ordinal none).text
  | .relinearize resultId ciphertextId => ∃ ordinal,
      resultId = (Name.mk .ssaRelinearized ordinal none).text ∧
      ciphertextId = (Name.mk .ssaProduct ordinal none).text
  | .addF1MMask resultId _ maskCiphertextId _ => ∃ ordinal,
      resultId = (Name.mk .ssaMasked ordinal none).text ∧
      maskCiphertextId = (Name.mk .ctF1m ordinal none).text
  | .returnResult resultId ciphertextId => ∃ ordinal,
      resultId = (Name.mk .result ordinal none).text ∧
      ∀ other, ciphertextId = (Name.mk .ssaMasked other none).text → other = ordinal
  | .rotate resultId _ _ _ | .multiplyPlaintextMask resultId _ _ | .addCiphertexts resultId _ _ =>
      ∀ ordinal, resultId ≠ (Name.mk .ssaMasked ordinal none).text

/-- The id is still to be used, or it is returned. -/
def Awaited (pending : List String) (nodes : List CloudNode) (id : String) : Prop :=
  id ∈ pending ∨ ∃ entry ∈ returnNodes nodes, entry.2 = id

structure Drafted (slotCount : ℕ) (issued : Name → Prop) (pending : List String) (draft : Draft) :
    Prop where
  lengths : ∀ operand ∈ draft.inputs, operand.length = slotCount
  masks : ∀ mask ∈ draft.masks, mask.length = slotCount ∧ mask.values.length = slotCount ∧
    ∀ value ∈ mask.values, value = 0 ∨ value = 1
  shifts : ∀ shift ∈ draft.shifts, 0 < shift ∧ shift < slotCount
  named : ∀ id ∈ draft.ids, ∃ name, issued name ∧ name.text = id
  distinct : draft.ids.Nodup
  placed : ∀ before node after, draft.nodes = before ++ node :: after →
    Placed draft.inputs draft.masks draft.shifts before node
  shaped : ∀ node ∈ draft.nodes, Shaped node
  live : ∀ node ∈ draft.nodes, node.isReturn = false → ∃ id, Chain draft.nodes node.resultId id ∧
    Awaited pending draft.nodes id

theorem Produced.mono {before after : List CloudNode} {id : String} {sort : CloudNode → Bool}
    (subset : before ⊆ after) (produced : Produced before id sort) : Produced after id sort := by
  obtain ⟨node,member,facts⟩ := produced
  exact ⟨node,subset member,facts⟩

theorem Produced.weaken {before : List CloudNode} {id : String} {sort weaker : CloudNode → Bool}
    (implies : ∀ node, sort node = true → weaker node = true) (produced : Produced before id sort) :
    Produced before id weaker := by
  obtain ⟨node,member,sorted,facts⟩ := produced
  exact ⟨node,member,implies node sorted,facts⟩

theorem final_plain (node : CloudNode) (final : isFinal node = true) : node.isPlain = true := by
  cases node <;> simp_all [isFinal,CloudNode.isPlain,CloudNode.isRelinearize,CloudNode.isMultiplyPlain,
    CloudNode.isAdd,CloudNode.isMultiply,CloudNode.isAddF1M,CloudNode.isReturn]

theorem Placed.mono {inputs inputs' : List CiphertextInput} {masks masks' : List PlaintextMask}
    {shifts shifts' : List ℕ} {before : List CloudNode} {node : CloudNode}
    (moreInputs : inputs ⊆ inputs') (moreMasks : masks ⊆ masks') (moreShifts : shifts ⊆ shifts')
    (placed : Placed inputs masks shifts before node) : Placed inputs' masks' shifts' before node := by
  cases node with
  | multiplyCiphertexts resultId leftId rightId =>
    obtain ⟨⟨left,inLeft,factsLeft⟩,right,inRight,factsRight⟩ := placed
    exact ⟨⟨left,moreInputs inLeft,factsLeft⟩,right,moreInputs inRight,factsRight⟩
  | relinearize resultId ciphertextId => exact placed
  | rotate resultId ciphertextId logicalShift openfheIndex =>
    obtain ⟨same,⟨shift,member,equal⟩,produced⟩ := placed
    exact ⟨same,⟨shift,moreShifts member,equal⟩,produced⟩
  | multiplyPlaintextMask resultId ciphertextId maskId =>
    obtain ⟨⟨mask,member,same⟩,produced⟩ := placed
    exact ⟨⟨mask,moreMasks member,same⟩,produced⟩
  | addCiphertexts resultId leftId rightId => exact placed
  | addF1MMask resultId ciphertextId maskCiphertextId maskRole =>
    obtain ⟨role,⟨operand,member,facts⟩,produced⟩ := placed
    exact ⟨role,⟨operand,moreInputs member,facts⟩,produced⟩
  | returnResult resultId ciphertextId => exact placed

theorem Chain.mono {nodes more : List CloudNode} {source target : String} (subset : nodes ⊆ more)
    (chain : Chain nodes source target) : Chain more source target := by
  refine Relation.ReflTransGen.mono ?_ _ _ chain
  intro left right feeds
  obtain ⟨node,member,facts⟩ := feeds
  exact ⟨node,subset member,facts⟩

theorem Awaited.mono {pending : List String} {nodes more : List CloudNode} {id : String}
    (subset : nodes ⊆ more) (awaited : Awaited pending nodes id) : Awaited pending more id := by
  rcases awaited with waiting | ⟨⟨resultId,ciphertextId⟩,member,same⟩
  · exact .inl waiting
  · rw [mem_returnNodes] at member
    exact .inr ⟨_,(mem_returnNodes _ _ _).mpr (subset member),same⟩

namespace Drafted

variable {slotCount : ℕ} {issued : Name → Prop} {pending : List String} {draft : Draft}

theorem start : Drafted slotCount issued pending ⟨[],[],[],[]⟩ := by
  constructor <;> simp [Draft.ids]

theorem weaken {more : Name → Prop} (drafted : Drafted slotCount issued pending draft)
    (implies : ∀ name, issued name → more name) : Drafted slotCount more pending draft := by
  refine { drafted with named := ?_ }
  intro id member
  obtain ⟨name,old,same⟩ := drafted.named id member
  exact ⟨name,implies name old,same⟩

theorem fresh (drafted : Drafted slotCount issued pending draft) (name : Name) (unused : ¬issued name) :
    name.text ∉ draft.ids := by
  intro member
  obtain ⟨old,given,same⟩ := drafted.named _ member
  exact unused (Name.text_injective same ▸ given)

private theorem named_cons (drafted : Drafted slotCount issued pending draft) (name : Name) (ids : List String)
    (perm : ids.Perm (name.text :: draft.ids)) :
    ∀ id ∈ ids, ∃ other, (issued other ∨ other = name) ∧ other.text = id := by
  intro id member
  rcases List.mem_cons.mp (perm.mem_iff.mp member) with same | old
  · exact ⟨name,.inr rfl,same.symm⟩
  · obtain ⟨other,given,same⟩ := drafted.named id old
    exact ⟨other,.inl given,same⟩

theorem addInput (drafted : Drafted slotCount issued pending draft) (role : CiphertextRole) (name : Name)
    (unused : ¬issued name) : Drafted slotCount (fun other => issued other ∨ other = name) pending
      (draft.addInput ⟨name.text,role,slotCount⟩) := by
  have perm : (draft.addInput ⟨name.text,role,slotCount⟩).ids.Perm (name.text :: draft.ids) := by
    simp only [Draft.ids,Draft.addInput,List.map_append,List.map_singleton,List.append_assoc,
      List.singleton_append]
    exact List.perm_middle
  refine ⟨?_,drafted.masks,drafted.shifts,drafted.named_cons name _ perm,?_,?_,drafted.shaped,drafted.live⟩
  · intro operand member
    rcases List.mem_append.mp member with old | new
    · exact drafted.lengths operand old
    · rw [List.mem_singleton.mp new]
  · exact perm.nodup_iff.mpr (List.nodup_cons.mpr ⟨drafted.fresh name unused,drafted.distinct⟩)
  · intro before node after cut
    exact Placed.mono (List.subset_append_left _ _) (List.Subset.refl _) (List.Subset.refl _)
      (drafted.placed before node after cut)

theorem addMask (drafted : Drafted slotCount issued pending draft) (name : Name) (selected : ℕ → Bool)
    (unused : ¬issued name) : Drafted slotCount (fun other => issued other ∨ other = name) pending
      (draft.addMask ⟨name.text,slotCount,
        (List.range slotCount).map fun lane => if selected lane then 1 else 0⟩) := by
  have perm : (draft.addMask ⟨name.text,slotCount,
      (List.range slotCount).map fun lane => if selected lane then 1 else 0⟩).ids.Perm
      (name.text :: draft.ids) := by
    simp only [Draft.ids,Draft.addMask,List.map_append,List.map_singleton,List.append_assoc,
      List.singleton_append]
    rw [← List.append_assoc,← List.append_assoc]
    exact List.perm_middle
  refine ⟨drafted.lengths,?_,drafted.shifts,drafted.named_cons name _ perm,?_,?_,drafted.shaped,
    drafted.live⟩
  · intro mask member
    rcases List.mem_append.mp member with old | new
    · exact drafted.masks mask old
    · rw [List.mem_singleton.mp new]
      refine ⟨rfl,by simp,?_⟩
      intro value inside
      obtain ⟨lane,_,rfl⟩ := List.mem_map.mp inside
      split <;> simp
  · exact perm.nodup_iff.mpr (List.nodup_cons.mpr ⟨drafted.fresh name unused,drafted.distinct⟩)
  · intro before node after cut
    exact Placed.mono (List.Subset.refl _) (List.subset_append_left _ _) (List.Subset.refl _)
      (drafted.placed before node after cut)

theorem addShift (drafted : Drafted slotCount issued pending draft) (shift : ℕ)
    (inside : 0 < shift ∧ shift < slotCount) :
    Drafted slotCount issued pending (draft.addShift shift) := by
  refine ⟨drafted.lengths,drafted.masks,?_,drafted.named,drafted.distinct,?_,drafted.shaped,drafted.live⟩
  · intro other member
    rcases List.mem_append.mp member with old | new
    · exact drafted.shifts other old
    · rw [List.mem_singleton.mp new]
      exact inside
  · intro before node after cut
    exact Placed.mono (List.Subset.refl _) (List.Subset.refl _) (List.subset_append_left _ _)
      (drafted.placed before node after cut)

/-- The ids a new node lets go of: it reads them, or it returns them. -/
def Settles (node : CloudNode) (id : String) : Prop :=
  (node.isReturn = false ∧ id ∈ node.dependencies) ∨ ∃ resultId, node = .returnResult resultId id

theorem addNode (drafted : Drafted slotCount issued pending draft) (node : CloudNode) (name : Name)
    (named : node.resultId = name.text) (unused : ¬issued name)
    (placed : Placed draft.inputs draft.masks draft.shifts draft.nodes node) (shaped : Shaped node)
    (next : List String) (kept : ∀ id ∈ pending, id ∈ next ∨ Settles node id)
    (own : node.isReturn = false → node.resultId ∈ next) :
    Drafted slotCount (fun other => issued other ∨ other = name) next (draft.addNode node) := by
  have perm : (draft.addNode node).ids.Perm (name.text :: draft.ids) := by
    simp only [Draft.ids,Draft.addNode,List.map_append,List.map_singleton,named]
    rw [← List.append_assoc]
    exact List.perm_append_singleton _ _
  have grows : draft.nodes ⊆ (draft.addNode node).nodes := List.subset_append_left _ _
  have here : node ∈ (draft.addNode node).nodes := by simp [Draft.addNode]
  refine ⟨drafted.lengths,drafted.masks,drafted.shifts,drafted.named_cons name _ perm,?_,?_,?_,?_⟩
  · exact perm.nodup_iff.mpr (List.nodup_cons.mpr ⟨drafted.fresh name unused,drafted.distinct⟩)
  · intro before last after cut
    rcases List.eq_nil_or_concat after with rfl | ⟨tail,final,rfl⟩
    · obtain ⟨rfl,same⟩ := List.append_inj' cut rfl
      rw [← List.singleton_inj.mp same]
      exact placed
    · rw [List.concat_eq_append,← List.cons_append,← List.append_assoc] at cut
      exact drafted.placed before last tail (List.append_inj' cut rfl).1
  · intro other member
    rcases List.mem_append.mp member with old | new
    · exact drafted.shaped other old
    · rw [List.mem_singleton.mp new]
      exact shaped
  · intro other member computes
    rcases List.mem_append.mp member with old | new
    · obtain ⟨id,chain,awaited⟩ := drafted.live other old computes
      have longer := Chain.mono grows chain
      rcases awaited with waiting | returned
      · rcases kept id waiting with still | ⟨computing,reads⟩ | ⟨resultId,rfl⟩
        · exact ⟨id,longer,.inl still⟩
        · exact ⟨node.resultId,longer.tail ⟨node,here,computing,rfl,reads⟩,.inl (own computing)⟩
        · exact ⟨id,longer,.inr ⟨(resultId,id),(mem_returnNodes _ _ _).mpr here,rfl⟩⟩
      · exact ⟨id,longer,Awaited.mono grows (.inr returned)⟩
    · rw [List.mem_singleton.mp new] at computes ⊢
      exact ⟨node.resultId,.refl,.inl (own computes)⟩

end Drafted

/-- Every operand and every product is used as its role asks. -/
structure Complete (draft : Draft) : Prop where
  operands : ∀ operand ∈ draft.inputs, operand.role ≠ .f1mMask → ∃ ordinal,
    (operand.ciphertextId = (Name.mk .ctValue ordinal none).text ∨
      operand.ciphertextId = (Name.mk .ctQuery ordinal none).text) ∧
    CloudNode.multiplyCiphertexts (Name.mk .ssaProduct ordinal none).text
      (Name.mk .ctValue ordinal none).text (Name.mk .ctQuery ordinal none).text ∈ draft.nodes
  f1m : ∀ operand ∈ draft.inputs, operand.role = .f1mMask → ∃ ordinal source role,
    operand.ciphertextId = (Name.mk .ctF1m ordinal none).text ∧
    CloudNode.addF1MMask (Name.mk .ssaMasked ordinal none).text source
      (Name.mk .ctF1m ordinal none).text role ∈ draft.nodes
  products : ∀ node ∈ draft.nodes, node.isMultiply = true → ∃ ordinal,
    node.resultId = (Name.mk .ssaProduct ordinal none).text ∧
    CloudNode.relinearize (Name.mk .ssaRelinearized ordinal none).text node.resultId ∈ draft.nodes
  masked : ∀ node ∈ draft.nodes, node.isAddF1M = true → ∃ ordinal,
    node.resultId = (Name.mk .ssaMasked ordinal none).text ∧
    CloudNode.returnResult (Name.mk .result ordinal none).text node.resultId ∈ draft.nodes
  masks : ∀ mask ∈ draft.masks, ∃ node ∈ draft.nodes, mask.maskId ∈ node.dependencies

namespace Drafted

variable {slotCount : ℕ} {issued : Name → Prop} {pending : List String} {draft : Draft}

theorem nodes_distinct (drafted : Drafted slotCount issued pending draft) :
    (draft.nodes.map CloudNode.resultId).Nodup :=
  (List.nodup_append.mp drafted.distinct).2.1

theorem node_unique (drafted : Drafted slotCount issued pending draft) (left right : CloudNode)
    (inLeft : left ∈ draft.nodes) (inRight : right ∈ draft.nodes)
    (same : left.resultId = right.resultId) : left = right :=
  List.inj_on_of_nodup_map drafted.nodes_distinct inLeft inRight same

private theorem operand_ne_node (drafted : Drafted slotCount issued pending draft) (id : String)
    (operand : id ∈ draft.inputs.map CiphertextInput.ciphertextId ++ draft.masks.map PlaintextMask.maskId)
    (node : CloudNode) (member : node ∈ draft.nodes) : node.resultId ≠ id := by
  intro same
  exact (List.nodup_append.mp drafted.distinct).2.2 id operand node.resultId
    (List.mem_map_of_mem member) same.symm

theorem reader (drafted : Drafted slotCount issued pending draft) (node : CloudNode)
    (member : node ∈ draft.nodes) (id : String) (reads : id ∈ node.dependencies) :
    node.isMultiply = true ∨ node.isRelinearize = true ∨ maskCiphertext node = some id ∨
      id ∈ draft.masks.map PlaintextMask.maskId ∨ Produced draft.nodes id CloudNode.isPlain := by
  obtain ⟨before,after,cut⟩ := List.append_of_mem member
  have placed := drafted.placed before node after cut
  have early : before ⊆ draft.nodes := by simp [cut]
  cases node with
  | multiplyCiphertexts resultId leftId rightId => exact .inl rfl
  | relinearize resultId ciphertextId => exact .inr (.inl rfl)
  | rotate resultId ciphertextId logicalShift openfheIndex =>
    rw [List.mem_singleton.mp reads]
    exact .inr (.inr (.inr (.inr (Produced.mono early placed.2.2))))
  | multiplyPlaintextMask resultId ciphertextId maskId =>
    obtain ⟨⟨mask,inMasks,same⟩,produced⟩ := placed
    rcases List.mem_cons.mp reads with source | isMask
    · rw [source]
      exact .inr (.inr (.inr (.inr (Produced.mono early produced))))
    · rw [List.mem_singleton.mp isMask,← same]
      exact .inr (.inr (.inr (.inl (List.mem_map_of_mem inMasks))))
  | addCiphertexts resultId leftId rightId =>
    rcases List.mem_cons.mp reads with left | right
    · rw [left]
      exact .inr (.inr (.inr (.inr (Produced.mono early placed.1))))
    · rw [List.mem_singleton.mp right]
      exact .inr (.inr (.inr (.inr (Produced.mono early placed.2))))
  | addF1MMask resultId ciphertextId maskCiphertextId maskRole =>
    rcases List.mem_cons.mp reads with source | isMask
    · rw [source]
      exact .inr (.inr (.inr (.inr (Produced.mono early placed.2.2))))
    · rw [List.mem_singleton.mp isMask]
      exact .inr (.inr (.inl rfl))
  | returnResult resultId ciphertextId => simp [CloudNode.dependencies] at reads

theorem values_read (drafted : Drafted slotCount issued pending draft) (complete : Complete draft)
    (operand : CiphertextInput) (member : operand ∈ draft.inputs) (role : operand.role ≠ .f1mMask) :
    SoleReader draft.nodes operand.ciphertextId CloudNode.isMultiply := by
  obtain ⟨ordinal,id,inNodes⟩ := complete.operands operand member role
  have inputs : operand.ciphertextId ∈ draft.inputs.map CiphertextInput.ciphertextId :=
    List.mem_map_of_mem member
  refine ⟨_,inNodes,rfl,?_,?_⟩
  · rcases id with same | same <;> simp [CloudNode.dependencies,same]
  · intro other inside reads
    have shape := drafted.shaped other inside
    rcases drafted.reader other inside _ reads with sort | sort | masks | isMask | produced
    · refine drafted.node_unique other _ inside inNodes ?_
      cases other <;> simp [CloudNode.isMultiply] at sort
      obtain ⟨j,rfl,rfl,rfl⟩ := shape
      rcases id with same | same <;> simp [CloudNode.dependencies,same] at reads <;> subst reads <;> rfl
    · cases other <;> simp [CloudNode.isRelinearize] at sort
      obtain ⟨j,rfl,rfl⟩ := shape
      rcases id with same | same <;> simp [CloudNode.dependencies,same] at reads
    · cases other <;> simp [maskCiphertext] at masks
      obtain ⟨j,rfl,rfl⟩ := shape
      rcases id with same | same <;> simp [same] at masks
    · have apart := (List.nodup_append.mp (List.nodup_append.mp drafted.distinct).1).2.2
      exact absurd rfl (apart _ inputs _ isMask)
    · obtain ⟨node,inDraft,_,_,same⟩ := produced
      exact absurd same (drafted.operand_ne_node _ (by simp [List.mem_append,inputs]) node inDraft)

theorem f1m_read (drafted : Drafted slotCount issued pending draft) (complete : Complete draft)
    (operand : CiphertextInput) (member : operand ∈ draft.inputs) (role : operand.role = .f1mMask) :
    SoleReader draft.nodes operand.ciphertextId
      fun node => maskCiphertext node = some operand.ciphertextId := by
  obtain ⟨ordinal,source,maskRole,id,inNodes⟩ := complete.f1m operand member role
  have inputs : operand.ciphertextId ∈ draft.inputs.map CiphertextInput.ciphertextId :=
    List.mem_map_of_mem member
  have isInput : operand.ciphertextId ∈ draft.inputs.map CiphertextInput.ciphertextId ++
      draft.masks.map PlaintextMask.maskId := by simp [List.mem_append,inputs]
  refine ⟨_,inNodes,by simp [maskCiphertext,id],?_,?_⟩
  · have apart : source ≠ operand.ciphertextId := by
      obtain ⟨before,after,cut⟩ := List.append_of_mem inNodes
      obtain ⟨node,early,_,_,same⟩ := (drafted.placed before _ after cut).2.2
      rw [← same]
      exact drafted.operand_ne_node _ isInput node (by simp [cut,early])
    simp [CloudNode.dependencies,apart,← id]
  · intro other inside reads
    have shape := drafted.shaped other inside
    rcases drafted.reader other inside _ reads with sort | sort | masks | isMask | produced
    · cases other <;> simp [CloudNode.isMultiply] at sort
      obtain ⟨j,rfl,rfl,rfl⟩ := shape
      simp [CloudNode.dependencies,id] at reads
    · cases other <;> simp [CloudNode.isRelinearize] at sort
      obtain ⟨j,rfl,rfl⟩ := shape
      simp [CloudNode.dependencies,id] at reads
    · refine drafted.node_unique other _ inside inNodes ?_
      cases other <;> simp [maskCiphertext] at masks
      obtain ⟨j,rfl,rfl⟩ := shape
      simp [id] at masks
      simp [CloudNode.resultId,masks]
    · have apart := (List.nodup_append.mp (List.nodup_append.mp drafted.distinct).1).2.2
      exact absurd rfl (apart _ inputs _ isMask)
    · obtain ⟨node,inDraft,_,_,same⟩ := produced
      exact absurd same (drafted.operand_ne_node _ isInput node inDraft)

theorem products_read (drafted : Drafted slotCount issued pending draft) (complete : Complete draft)
    (node : CloudNode) (member : node ∈ draft.nodes) (multiplies : node.isMultiply = true) :
    SoleReader draft.nodes node.resultId CloudNode.isRelinearize := by
  obtain ⟨ordinal,id,inNodes⟩ := complete.products node member multiplies
  refine ⟨_,inNodes,rfl,by simp [CloudNode.dependencies],?_⟩
  intro other inside reads
  have shape := drafted.shaped other inside
  rcases drafted.reader other inside _ reads with sort | sort | masks | isMask | produced
  · cases other <;> simp [CloudNode.isMultiply] at sort
    obtain ⟨j,rfl,rfl,rfl⟩ := shape
    simp [CloudNode.dependencies,id] at reads
  · refine drafted.node_unique other _ inside inNodes ?_
    cases other <;> simp [CloudNode.isRelinearize] at sort
    obtain ⟨j,rfl,rfl⟩ := shape
    simp [CloudNode.dependencies,id] at reads
    simp [CloudNode.resultId,reads]
  · cases other <;> simp [maskCiphertext] at masks
    obtain ⟨j,rfl,rfl⟩ := shape
    simp [id] at masks
  · exact absurd rfl (drafted.operand_ne_node _ (by simp [List.mem_append,isMask]) node member)
  · obtain ⟨earlier,inDraft,plain,_,same⟩ := produced
    rw [drafted.node_unique earlier node inDraft member same] at plain
    simp [CloudNode.isPlain,multiplies] at plain

theorem f1m_returned (drafted : Drafted slotCount issued pending draft) (complete : Complete draft)
    (node : CloudNode) (member : node ∈ draft.nodes) (masks : node.isAddF1M = true) :
    ((returnNodes draft.nodes).map Prod.snd).count node.resultId = 1 := by
  obtain ⟨ordinal,id,inNodes⟩ := complete.masked node member masks
  rw [returnNodes,List.map_filterMap]
  refine count_filterMap_unique _ draft.nodes (List.Nodup.of_map _ drafted.nodes_distinct)
    node.resultId _ inNodes rfl ?_
  intro other inside returns
  have shape := drafted.shaped other inside
  refine drafted.node_unique other _ inside inNodes ?_
  cases other <;> simp at returns
  obtain ⟨j,rfl,only⟩ := shape
  rw [only ordinal (returns.trans id)]
  rfl

/-- What the validator accepts has been drafted. -/
theorem wellFormed (drafted : Drafted slotCount issued [] draft) (complete : Complete draft)
    (positive : 0 < slotCount) (program : CloudProgram) (format : program.format = cloudProgramFormat)
    (slots : program.slotCount = slotCount) (inputs : program.ciphertextInputs = draft.inputs)
    (masks : program.plaintextMasks = draft.masks) (nodes : program.nodes = draft.nodes)
    (results : program.resultIds = (returnNodes draft.nodes).map Prod.fst)
    (catalog : program.rotationCatalog = (Sorting.sortedSet id draft.shifts).map fun shift : ℕ =>
      ((shift : ℤ),(shift : ℤ))) : WellFormed program draft.shifts := by
  have ids : program.ids = draft.ids := by
    rw [CloudProgram.ids,Draft.ids,inputs,masks,nodes]
  constructor
  · exact format
  · rw [slots]
    exact positive
  · exact catalog
  · exact fun shift member => (drafted.shifts shift member).1
  · rw [ids]
    intro id member
    obtain ⟨name,_,rfl⟩ := drafted.named id member
    exact name.text_valid
  · rw [ids]
    exact drafted.distinct
  · rw [inputs,slots]
    exact drafted.lengths
  · rw [masks,slots]
    exact drafted.masks
  · rw [inputs,masks,nodes]
    exact drafted.placed
  · rw [nodes]
    exact results
  · rw [inputs,nodes]
    exact drafted.values_read complete
  · rw [inputs,nodes]
    exact drafted.f1m_read complete
  · rw [nodes]
    exact drafted.products_read complete
  · rw [nodes]
    exact drafted.f1m_returned complete
  · rw [masks,nodes]
    exact complete.masks
  · rw [nodes]
    intro node member computes
    obtain ⟨id,chain,waiting | ⟨entry,returned,rfl⟩⟩ := drafted.live node member computes
    · simp at waiting
    · exact ⟨entry,returned,chain⟩

end Drafted
end DynamicCssc
