import DynamicCssc.QueryDraft

/-! The compilation keeps the draft well formed: one lemma for each way the compiler appends, then
the loops. -/
namespace DynamicCssc
open Foundation CloudProgram

/-- The names in use, given the counters: operands and results below their ordinals, the rotations
of the current operand below a span, its selection, the cross sums of the current result. -/
def Issued (operands results : ℕ) (reductions : ℕ × ℕ) (selections cross : ℕ) (name : Name) : Prop :=
  match name.kind with
  | .ctValue | .ctQuery | .ssaProduct | .ssaRelinearized => name.ordinal < operands
  | .ptSelection | .ssaSelected => name.ordinal < selections
  | .ssaRotate | .ssaColumnSum => name.ordinal < reductions.1 ∨
      name.ordinal = reductions.1 ∧ name.minor.getD 0 < reductions.2
  | .ssaSegmentSum => name.ordinal < reductions.1 ∨
      name.ordinal = reductions.1 ∧ name.minor.getD 0 < 2 * reductions.2
  | .ssaResultSum => name.ordinal < results ∨ name.ordinal = results ∧ name.minor.getD 0 < cross
  | .ctF1m | .ssaMasked | .result => name.ordinal < results

def Emission.draft (emission : Emission) : Draft :=
  ⟨emission.ciphertextInputs,emission.plaintextMasks,emission.rotationShifts,emission.nodes⟩

/-- The route of a result returns a masked ciphertext where the policy wants a mask, and a final
one elsewhere. -/
def Routed (needsMask : ShareIdentity → Bool) (nodes : List CloudNode) (route : ResultRoute) : Prop :=
  route.f1mCiphertextId.isSome = needsMask route.outputShareId ∧
    ∃ source, CloudNode.returnResult route.resultId source ∈ nodes ∧
      Produced nodes source fun node =>
        if needsMask route.outputShareId then node.isAddF1M else isFinal node

/-- The state of the compilation between two appends. -/
structure Working (slotCount : ℕ) (needsMask : ShareIdentity → Bool) (reductions : ℕ × ℕ)
    (selections cross : ℕ) (pending : List String) (emission : Emission) : Prop where
  drafted : Drafted slotCount
    (Issued emission.operandOrdinal emission.resultOrdinal reductions selections cross) pending
    emission.draft
  complete : Complete emission.draft
  final : ∀ id ∈ pending, Produced emission.nodes id isFinal
  results : emission.resultIds = (returnNodes emission.nodes).map Prod.fst
  routes : emission.routes.map ResultRoute.resultId = emission.resultIds
  routed : ∀ route ∈ emission.routes, Routed needsMask emission.nodes route

theorem Routed.mono {needsMask : ShareIdentity → Bool} {nodes more : List CloudNode}
    {route : ResultRoute} (subset : nodes ⊆ more) (routed : Routed needsMask nodes route) :
    Routed needsMask more route := by
  obtain ⟨mask,source,member,produced⟩ := routed
  exact ⟨mask,source,subset member,Produced.mono subset produced⟩

@[simp] theorem returnNodes_append (left right : List CloudNode) :
    returnNodes (left ++ right) = returnNodes left ++ returnNodes right :=
  List.filterMap_append

namespace Complete

private theorem addNodes {draft : Draft} (complete : Complete draft) (nodes : List CloudNode) (shifts : List ℕ)
    (calm : ∀ node ∈ nodes, node.isMultiply = false ∧ node.isAddF1M = false) :
    Complete ⟨draft.inputs,draft.masks,shifts,draft.nodes ++ nodes⟩ := by
  have old : draft.nodes ⊆ draft.nodes ++ nodes := List.subset_append_left _ _
  constructor
  · intro operand member role
    obtain ⟨ordinal,id,inNodes⟩ := complete.operands operand member role
    exact ⟨ordinal,id,old inNodes⟩
  · intro operand member role
    obtain ⟨ordinal,source,mask,id,inNodes⟩ := complete.f1m operand member role
    exact ⟨ordinal,source,mask,id,old inNodes⟩
  · intro node member multiplies
    rcases List.mem_append.mp member with before | new
    · obtain ⟨ordinal,id,inNodes⟩ := complete.products node before multiplies
      exact ⟨ordinal,id,old inNodes⟩
    · rw [(calm node new).1] at multiplies
      cases multiplies
  · intro node member masks
    rcases List.mem_append.mp member with before | new
    · obtain ⟨ordinal,id,inNodes⟩ := complete.masked node before masks
      exact ⟨ordinal,id,old inNodes⟩
    · rw [(calm node new).2] at masks
      cases masks
  · intro mask member
    obtain ⟨node,inNodes,reads⟩ := complete.masks mask member
    exact ⟨node,old inNodes,reads⟩

end Complete

namespace Working

variable {slotCount : ℕ} {needsMask : ShareIdentity → Bool} {reductions : ℕ × ℕ}
  {selections cross : ℕ} {pending : List String} {emission : Emission}

theorem start : Working slotCount needsMask (0,0) 0 0 [] Emission.empty := by
  refine ⟨Drafted.start,?_,by simp,rfl,rfl,by simp [Emission.empty]⟩
  constructor <;> simp [Emission.empty,Emission.draft]

theorem advance (working : Working slotCount needsMask reductions selections cross pending emission)
    (reductions' : ℕ × ℕ) (selections' cross' : ℕ)
    (later : reductions.1 < reductions'.1 ∨ reductions.1 = reductions'.1 ∧ reductions.2 ≤ reductions'.2)
    (more : selections ≤ selections') (crosses : cross ≤ cross') :
    Working slotCount needsMask reductions' selections' cross' pending emission := by
  refine { working with drafted := working.drafted.weaken ?_ }
  intro name issued
  obtain ⟨kind,ordinal,minor⟩ := name
  cases kind <;> simp only [Issued] at issued ⊢ <;> omega

theorem operand (working : Working slotCount needsMask reductions selections cross pending emission) :
    Working slotCount needsMask reductions selections cross
      (pending ++ [(emission.appendOperand slotCount).2.relinearizedId])
      (emission.appendOperand slotCount).1 := by
  obtain ⟨drafted,complete,final,results,routes,routed⟩ := working
  have grows : emission.nodes ⊆ (emission.appendOperand slotCount).1.nodes :=
    List.subset_append_left _ _
  have value := drafted.addInput .value ⟨.ctValue,emission.operandOrdinal,none⟩ (by simp [Issued])
  have query := value.addInput .query ⟨.ctQuery,emission.operandOrdinal,none⟩ (by simp [Issued])
  have product := query.addNode (.multiplyCiphertexts (Name.mk .ssaProduct emission.operandOrdinal none).text
      (Name.mk .ctValue emission.operandOrdinal none).text
      (Name.mk .ctQuery emission.operandOrdinal none).text)
    ⟨.ssaProduct,emission.operandOrdinal,none⟩ rfl (by simp [Issued])
    ⟨⟨⟨(Name.mk .ctValue emission.operandOrdinal none).text,.value,slotCount⟩,
        by simp [Draft.addInput],rfl,rfl⟩,
      ⟨(Name.mk .ctQuery emission.operandOrdinal none).text,.query,slotCount⟩,
        by simp [Draft.addInput],rfl,rfl⟩ ⟨_,rfl,rfl,rfl⟩
    (pending ++ [(Name.mk .ssaProduct emission.operandOrdinal none).text])
    (fun id member => .inl (by simp [member])) (fun _ => by simp [CloudNode.resultId])
  have relinearized := product.addNode (.relinearize
      (Name.mk .ssaRelinearized emission.operandOrdinal none).text
      (Name.mk .ssaProduct emission.operandOrdinal none).text)
    ⟨.ssaRelinearized,emission.operandOrdinal,none⟩ rfl (by simp [Issued])
    ⟨.multiplyCiphertexts (Name.mk .ssaProduct emission.operandOrdinal none).text
      (Name.mk .ctValue emission.operandOrdinal none).text
      (Name.mk .ctQuery emission.operandOrdinal none).text,by simp [Draft.addNode],rfl,rfl,rfl⟩ ⟨_,rfl,rfl⟩
    (pending ++ [(Name.mk .ssaRelinearized emission.operandOrdinal none).text])
    (by
      intro id member
      rcases List.mem_append.mp member with old | new
      · exact .inl (by simp [old])
      · exact .inr (.inl ⟨rfl,by simpa [CloudNode.dependencies] using new⟩))
    (fun _ => by simp [CloudNode.resultId])
  refine ⟨?_,?_,?_,?_,routes,fun route member => Routed.mono grows (routed route member)⟩
  · have draft : (emission.appendOperand slotCount).1.draft =
        (((emission.draft.addInput ⟨(Name.mk .ctValue emission.operandOrdinal none).text,.value,
          slotCount⟩).addInput ⟨(Name.mk .ctQuery emission.operandOrdinal none).text,.query,slotCount⟩).addNode
          (.multiplyCiphertexts (Name.mk .ssaProduct emission.operandOrdinal none).text
            (Name.mk .ctValue emission.operandOrdinal none).text
            (Name.mk .ctQuery emission.operandOrdinal none).text)).addNode
          (.relinearize (Name.mk .ssaRelinearized emission.operandOrdinal none).text
            (Name.mk .ssaProduct emission.operandOrdinal none).text) := by
      simp [Emission.appendOperand,Emission.draft,Draft.addInput,Draft.addNode]
    rw [draft]
    refine relinearized.weaken ?_
    intro name issued
    rcases issued with (((old | rfl) | rfl) | rfl) | rfl
    · obtain ⟨kind,ordinal,minor⟩ := name
      cases kind <;> simp only [Issued,Emission.appendOperand] at old ⊢ <;> omega
    all_goals simp [Issued,Emission.appendOperand]
  · constructor
    · intro operand member role
      rcases List.mem_append.mp member with old | new
      · obtain ⟨ordinal,id,inNodes⟩ := complete.operands operand old role
        exact ⟨ordinal,id,grows inNodes⟩
      · refine ⟨emission.operandOrdinal,?_,by simp [Emission.appendOperand,Emission.draft]⟩
        rcases List.mem_cons.mp new with isValue | isQuery
        · exact .inl (isValue ▸ rfl)
        · exact .inr (List.mem_singleton.mp isQuery ▸ rfl)
    · intro operand member role
      rcases List.mem_append.mp member with old | new
      · obtain ⟨ordinal,source,mask,id,inNodes⟩ := complete.f1m operand old role
        exact ⟨ordinal,source,mask,id,grows inNodes⟩
      · simp only [List.mem_cons,List.not_mem_nil,or_false] at new
        rcases new with rfl | rfl <;> cases role
    · intro node member multiplies
      rcases List.mem_append.mp member with old | new
      · obtain ⟨ordinal,id,inNodes⟩ := complete.products node old multiplies
        exact ⟨ordinal,id,grows inNodes⟩
      · refine ⟨emission.operandOrdinal,?_⟩
        simp only [List.mem_cons,List.not_mem_nil,or_false] at new
        rcases new with rfl | rfl
        · simp [CloudNode.resultId,Emission.appendOperand,Emission.draft]
        · cases multiplies
    · intro node member masks
      rcases List.mem_append.mp member with old | new
      · obtain ⟨ordinal,id,inNodes⟩ := complete.masked node old masks
        exact ⟨ordinal,id,grows inNodes⟩
      · simp only [List.mem_cons,List.not_mem_nil,or_false] at new
        rcases new with rfl | rfl <;> cases masks
    · intro mask member
      obtain ⟨node,inNodes,reads⟩ := complete.masks mask member
      exact ⟨node,grows inNodes,reads⟩
  · intro id member
    rcases List.mem_append.mp member with old | new
    · exact Produced.mono grows (final id old)
    · rw [List.mem_singleton.mp new]
      exact ⟨_,List.mem_append_right _ (List.mem_cons_of_mem _ (List.mem_singleton.mpr rfl)),rfl,rfl,rfl⟩
  · simpa [Emission.appendOperand,returnNodes] using results

private theorem issued_later {operands results selections cross : ℕ} {reductions reductions' : ℕ × ℕ}
    (same : reductions.1 = reductions'.1) (later : reductions.2 ≤ reductions'.2) (name : Name)
    (issued : Issued operands results reductions selections cross name) :
    Issued operands results reductions' selections cross name := by
  obtain ⟨kind,ordinal,minor⟩ := name
  cases kind <;> simp only [Issued] at issued ⊢ <;> omega

theorem rotateAdd (front : List String) (accumulated : String)
    (working : Working slotCount needsMask reductions selections cross (front ++ [accumulated]) emission)
    (rotated sum : Name) (source : String) (shift : ℕ) (reductions' : ℕ × ℕ)
    (same : reductions.1 = reductions'.1) (later : reductions.2 ≤ reductions'.2)
    (differ : rotated ≠ sum) (kinds : rotated.kind ≠ .ssaMasked ∧ sum.kind ≠ .ssaMasked)
    (freeRotated : ¬Issued emission.operandOrdinal emission.resultOrdinal reductions selections cross rotated)
    (freeSum : ¬Issued emission.operandOrdinal emission.resultOrdinal reductions selections cross sum)
    (newRotated : Issued emission.operandOrdinal emission.resultOrdinal reductions' selections cross rotated)
    (newSum : Issued emission.operandOrdinal emission.resultOrdinal reductions' selections cross sum)
    (plain : Produced emission.nodes source CloudNode.isPlain) (inside : 0 < shift ∧ shift < slotCount) :
    Working slotCount needsMask reductions' selections cross (front ++ [sum.text])
      (emission.rotateAdd rotated sum source accumulated shift) := by
  obtain ⟨drafted,complete,final,results,routes,routed⟩ := working
  have grows : emission.nodes ⊆ (emission.rotateAdd rotated sum source accumulated shift).nodes :=
    List.subset_append_left _ _
  have shifted := (drafted.addShift shift inside).addNode (.rotate rotated.text source shift shift)
    rotated rfl freeRotated ⟨rfl,⟨shift,by simp [Draft.addShift],rfl⟩,plain⟩
    (fun ordinal same => kinds.1 (by rw [Name.text_injective same]))
    (front ++ [accumulated] ++ [rotated.text]) (fun id member => .inl (List.mem_append_left _ member))
    (fun _ => by simp [CloudNode.resultId])
  have accumulatedPlain := Produced.weaken final_plain (final accumulated (by simp))
  have summed := shifted.addNode (.addCiphertexts sum.text accumulated rotated.text) sum rfl
    (by
      intro used
      rcases used with used | used
      · exact freeSum used
      · exact differ used.symm)
    ⟨Produced.mono (List.subset_append_left _ _) accumulatedPlain,
      .rotate rotated.text source shift shift,by simp [Draft.addNode],rfl,rfl,rfl⟩
    (fun ordinal same => kinds.2 (by rw [Name.text_injective same]))
    (front ++ [sum.text])
    (by
      intro id member
      simp only [List.append_assoc,List.mem_append,List.mem_singleton] at member
      rcases member with old | here | here
      · exact .inl (List.mem_append_left _ old)
      · exact .inr (.inl ⟨rfl,by simp [CloudNode.dependencies,here]⟩)
      · exact .inr (.inl ⟨rfl,by simp [CloudNode.dependencies,here]⟩))
    (fun _ => by simp [CloudNode.resultId])
  refine ⟨?_,?_,?_,?_,routes,fun route member => Routed.mono grows (routed route member)⟩
  · have draft : (emission.rotateAdd rotated sum source accumulated shift).draft =
        ((emission.draft.addShift shift).addNode (.rotate rotated.text source shift shift)).addNode
          (.addCiphertexts sum.text accumulated rotated.text) := by
      simp [Emission.rotateAdd,Emission.draft,Draft.addShift,Draft.addNode]
    rw [draft]
    refine summed.weaken ?_
    intro name issued
    rcases issued with (old | rfl) | rfl
    · exact issued_later same later name old
    · exact newRotated
    · exact newSum
  · exact complete.addNodes _ _ (by simp [CloudNode.isMultiply,CloudNode.isAddF1M])
  · intro id member
    rcases List.mem_append.mp member with old | new
    · exact Produced.mono grows (final id (List.mem_append_left _ old))
    · rw [List.mem_singleton.mp new]
      exact ⟨_,List.mem_append_right _ (List.mem_cons_of_mem _ (List.mem_singleton.mpr rfl)),rfl,rfl,rfl⟩
  · simpa [Emission.rotateAdd,returnNodes] using results

theorem select (front : List String) (accumulated : String) (ordinal : ℕ)
    (working : Working slotCount needsMask reductions ordinal cross (front ++ [accumulated]) emission)
    (selected : ℕ → Bool) :
    Working slotCount needsMask reductions (ordinal + 1) cross
      (front ++ [(emission.select slotCount ordinal selected accumulated).2])
      (emission.select slotCount ordinal selected accumulated).1 := by
  obtain ⟨drafted,complete,final,results,routes,routed⟩ := working
  have grows : emission.nodes ⊆ (emission.select slotCount ordinal selected accumulated).1.nodes :=
    List.subset_append_left _ _
  have masked := drafted.addMask ⟨.ptSelection,ordinal,none⟩ selected (by simp [Issued])
  have chosen := masked.addNode (.multiplyPlaintextMask (Name.mk .ssaSelected ordinal none).text accumulated
      (Name.mk .ptSelection ordinal none).text) ⟨.ssaSelected,ordinal,none⟩ rfl (by simp [Issued])
    ⟨⟨⟨(Name.mk .ptSelection ordinal none).text,slotCount,
        (List.range slotCount).map fun lane => if selected lane then 1 else 0⟩,
        by simp [Draft.addMask],rfl⟩,
      Produced.weaken final_plain (final accumulated (by simp))⟩ (by simp [Shaped])
    (front ++ [(Name.mk .ssaSelected ordinal none).text])
    (by
      intro id member
      rcases List.mem_append.mp member with old | here
      · exact .inl (List.mem_append_left _ old)
      · exact .inr (.inl ⟨rfl,by simp [CloudNode.dependencies,List.mem_singleton.mp here]⟩))
    (fun _ => by simp [CloudNode.resultId])
  refine ⟨chosen.weaken ?_,?_,?_,?_,routes,fun route member => Routed.mono grows (routed route member)⟩
  · intro name issued
    rcases issued with (old | rfl) | rfl
    · obtain ⟨kind,place,minor⟩ := name
      cases kind <;> simp only [Issued,Emission.select] at old ⊢ <;> omega
    all_goals simp [Issued]
  · have calm := complete.addNodes [.multiplyPlaintextMask (Name.mk .ssaSelected ordinal none).text accumulated
      (Name.mk .ptSelection ordinal none).text] emission.rotationShifts
      (by simp [CloudNode.isMultiply,CloudNode.isAddF1M])
    refine ⟨calm.operands,calm.f1m,calm.products,calm.masked,?_⟩
    intro mask member
    rcases List.mem_append.mp member with old | new
    · exact calm.masks mask old
    · refine ⟨_,List.mem_append_right _ (List.mem_singleton.mpr rfl),?_⟩
      simp [CloudNode.dependencies,List.mem_singleton.mp new]
  · intro id member
    rcases List.mem_append.mp member with old | new
    · exact Produced.mono grows (final id (List.mem_append_left _ old))
    · rw [List.mem_singleton.mp new]
      exact ⟨_,List.mem_append_right _ (List.mem_singleton.mpr rfl),rfl,rfl,rfl⟩
  · simpa [Emission.select,returnNodes] using results

theorem addSelected (accumulated next : String) (rest : List String) (minor : ℕ)
    (working : Working slotCount needsMask reductions selections minor (accumulated :: next :: rest)
      emission) :
    Working slotCount needsMask reductions selections (minor + 1)
      ((addSelected (emission,accumulated) (next,minor)).2 :: rest)
      (addSelected (emission,accumulated) (next,minor)).1 := by
  obtain ⟨drafted,complete,final,results,routes,routed⟩ := working
  have grows : emission.nodes ⊆ (DynamicCssc.addSelected (emission,accumulated) (next,minor)).1.nodes :=
    List.subset_append_left _ _
  have summed := drafted.addNode (.addCiphertexts
      (Name.mk .ssaResultSum emission.resultOrdinal (some minor)).text accumulated next)
    ⟨.ssaResultSum,emission.resultOrdinal,some minor⟩ rfl (by simp [Issued])
    ⟨Produced.weaken final_plain (final accumulated (by simp)),
      Produced.weaken final_plain (final next (by simp))⟩ (by simp [Shaped])
    ((Name.mk .ssaResultSum emission.resultOrdinal (some minor)).text :: rest)
    (by
      intro id member
      rcases List.mem_cons.mp member with here | member
      · exact .inr (.inl ⟨rfl,by simp [CloudNode.dependencies,here]⟩)
      · rcases List.mem_cons.mp member with here | old
        · exact .inr (.inl ⟨rfl,by simp [CloudNode.dependencies,here]⟩)
        · exact .inl (List.mem_cons_of_mem _ old))
    (fun _ => by simp [CloudNode.resultId])
  refine ⟨summed.weaken ?_,?_,?_,?_,routes,fun route member => Routed.mono grows (routed route member)⟩
  · intro name issued
    rcases issued with old | rfl
    · obtain ⟨kind,place,minor⟩ := name
      cases kind <;> simp only [Issued,DynamicCssc.addSelected] at old ⊢ <;> omega
    · simp [Issued,DynamicCssc.addSelected]
  · exact complete.addNodes _ _ (by simp [CloudNode.isMultiply,CloudNode.isAddF1M])
  · intro id member
    rcases List.mem_cons.mp member with here | old
    · rw [here]
      exact ⟨_,List.mem_append_right _ (List.mem_singleton.mpr rfl),rfl,rfl,rfl⟩
    · exact Produced.mono grows (final id (by simp [old]))
  · simpa [DynamicCssc.addSelected,returnNodes] using results

private theorem finishMasked (accumulated componentId outputBlockId : String)
    (working : Working slotCount needsMask reductions selections cross [accumulated] emission)
    (needs : needsMask (toLex (componentId,outputBlockId)) = true) :
    Working slotCount needsMask reductions selections 0 []
      (emission.finishResult slotCount needsMask accumulated componentId outputBlockId).1 := by
  obtain ⟨drafted,complete,final,results,routes,routed⟩ := working
  rw [Emission.finishResult,if_pos needs]
  have grows : emission.nodes ⊆ emission.nodes ++ [
      .addF1MMask (Name.mk .ssaMasked emission.resultOrdinal none).text accumulated
        (Name.mk .ctF1m emission.resultOrdinal none).text opaqueZeroSum,
      .returnResult (Name.mk .result emission.resultOrdinal none).text
        (Name.mk .ssaMasked emission.resultOrdinal none).text] := List.subset_append_left _ _
  have source := final accumulated (by simp)
  have operand := drafted.addInput .f1mMask ⟨.ctF1m,emission.resultOrdinal,none⟩ (by simp [Issued])
  have masked := operand.addNode (.addF1MMask (Name.mk .ssaMasked emission.resultOrdinal none).text
      accumulated (Name.mk .ctF1m emission.resultOrdinal none).text opaqueZeroSum)
    ⟨.ssaMasked,emission.resultOrdinal,none⟩ rfl (by simp [Issued])
    ⟨rfl,⟨⟨(Name.mk .ctF1m emission.resultOrdinal none).text,.f1mMask,slotCount⟩,
      by simp [Draft.addInput],rfl,rfl⟩,Produced.weaken final_plain source⟩ ⟨_,rfl,rfl⟩
    [(Name.mk .ssaMasked emission.resultOrdinal none).text]
    (fun id member => .inr (.inl ⟨rfl,by simp [CloudNode.dependencies,List.mem_singleton.mp member]⟩))
    (fun _ => by simp [CloudNode.resultId])
  have returned := masked.addNode (.returnResult (Name.mk .result emission.resultOrdinal none).text
      (Name.mk .ssaMasked emission.resultOrdinal none).text)
    ⟨.result,emission.resultOrdinal,none⟩ rfl (by simp [Issued])
    ⟨.addF1MMask (Name.mk .ssaMasked emission.resultOrdinal none).text accumulated
      (Name.mk .ctF1m emission.resultOrdinal none).text opaqueZeroSum,by simp [Draft.addNode],rfl,rfl,rfl⟩
    ⟨_,rfl,fun other same => by simpa using same.symm⟩ []
    (fun id member => .inr (.inr ⟨(Name.mk .result emission.resultOrdinal none).text,
      by rw [List.mem_singleton.mp member]⟩)) (fun computes => by cases computes)
  refine ⟨?_,?_,by simp,?_,?_,?_⟩
  · have draft : Emission.draft { emission with
          ciphertextInputs := emission.ciphertextInputs ++
            [⟨(Name.mk .ctF1m emission.resultOrdinal none).text,.f1mMask,slotCount⟩]
          nodes := emission.nodes ++ [
            .addF1MMask (Name.mk .ssaMasked emission.resultOrdinal none).text accumulated
              (Name.mk .ctF1m emission.resultOrdinal none).text opaqueZeroSum,
            .returnResult (Name.mk .result emission.resultOrdinal none).text
              (Name.mk .ssaMasked emission.resultOrdinal none).text] } =
        ((emission.draft.addInput ⟨(Name.mk .ctF1m emission.resultOrdinal none).text,.f1mMask,
          slotCount⟩).addNode (.addF1MMask (Name.mk .ssaMasked emission.resultOrdinal none).text
          accumulated (Name.mk .ctF1m emission.resultOrdinal none).text opaqueZeroSum)).addNode
          (.returnResult (Name.mk .result emission.resultOrdinal none).text
            (Name.mk .ssaMasked emission.resultOrdinal none).text) := by
      simp [Emission.draft,Draft.addInput,Draft.addNode]
    refine draft ▸ returned.weaken ?_
    intro name issued
    rcases issued with ((old | rfl) | rfl) | rfl
    · obtain ⟨kind,place,minor⟩ := name
      cases kind <;> simp only [Issued] at old ⊢ <;> omega
    all_goals simp [Issued]
  · constructor
    · intro operand member role
      rcases List.mem_append.mp member with old | new
      · obtain ⟨ordinal,id,inNodes⟩ := complete.operands operand old role
        exact ⟨ordinal,id,grows inNodes⟩
      · rw [List.mem_singleton.mp new] at role
        exact absurd rfl role
    · intro operand member role
      rcases List.mem_append.mp member with old | new
      · obtain ⟨ordinal,source,mask,id,inNodes⟩ := complete.f1m operand old role
        exact ⟨ordinal,source,mask,id,grows inNodes⟩
      · rw [List.mem_singleton.mp new]
        exact ⟨emission.resultOrdinal,accumulated,opaqueZeroSum,rfl,by simp [Emission.draft]⟩
    · intro node member multiplies
      rcases List.mem_append.mp member with old | new
      · obtain ⟨ordinal,id,inNodes⟩ := complete.products node old multiplies
        exact ⟨ordinal,id,grows inNodes⟩
      · simp only [List.mem_cons,List.not_mem_nil,or_false] at new
        rcases new with rfl | rfl <;> cases multiplies
    · intro node member masks
      rcases List.mem_append.mp member with old | new
      · obtain ⟨ordinal,id,inNodes⟩ := complete.masked node old masks
        exact ⟨ordinal,id,grows inNodes⟩
      · simp only [List.mem_cons,List.not_mem_nil,or_false] at new
        rcases new with rfl | rfl
        · exact ⟨emission.resultOrdinal,rfl,by simp [Emission.draft,CloudNode.resultId]⟩
        · cases masks
    · intro mask member
      obtain ⟨node,inNodes,reads⟩ := complete.masks mask member
      exact ⟨node,grows inNodes,reads⟩
  · simp [results,returnNodes]
  · simp [routes]
  · intro route member
    rcases List.mem_append.mp member with old | new
    · exact Routed.mono grows (routed route old)
    · rw [List.mem_singleton.mp new]
      refine ⟨by simp [ResultRoute.outputShareId,needs],
        (Name.mk .ssaMasked emission.resultOrdinal none).text,by simp,_,
        List.mem_append_right _ List.mem_cons_self,?_,rfl,rfl⟩
      simp [ResultRoute.outputShareId,needs,CloudNode.isAddF1M]

private theorem finishUnmasked (accumulated componentId outputBlockId : String)
    (working : Working slotCount needsMask reductions selections cross [accumulated] emission)
    (free : needsMask (toLex (componentId,outputBlockId)) = false) :
    Working slotCount needsMask reductions selections 0 []
      (emission.finishResult slotCount needsMask accumulated componentId outputBlockId).1 := by
  obtain ⟨drafted,complete,final,results,routes,routed⟩ := working
  rw [Emission.finishResult,if_neg (by simp [free])]
  have grows : emission.nodes ⊆ emission.nodes ++ [
      .returnResult (Name.mk .result emission.resultOrdinal none).text accumulated] :=
    List.subset_append_left _ _
  have source := final accumulated (by simp)
  have returned := drafted.addNode (.returnResult (Name.mk .result emission.resultOrdinal none).text
      accumulated) ⟨.result,emission.resultOrdinal,none⟩ rfl (by simp [Issued])
    (Produced.weaken (fun node final => by simp [final]) source)
    ⟨_,rfl,fun other same => by
      obtain ⟨node,member,sort,_,id⟩ := source
      have shape := drafted.shaped node member
      cases node <;> simp [isFinal,CloudNode.isRelinearize,CloudNode.isMultiplyPlain,CloudNode.isAdd] at sort
      · obtain ⟨ordinal,rfl,_⟩ := shape
        simp [CloudNode.resultId,← id] at same
      · exact absurd (id.trans same) (shape other)
      · exact absurd (id.trans same) (shape other)⟩ []
    (fun id member => .inr (.inr ⟨(Name.mk .result emission.resultOrdinal none).text,
      by rw [List.mem_singleton.mp member]⟩)) (fun computes => by cases computes)
  refine ⟨returned.weaken ?_,complete.addNodes _ _ (by simp [CloudNode.isMultiply,CloudNode.isAddF1M]),
    by simp,?_,?_,?_⟩
  · intro name issued
    rcases issued with old | rfl
    · obtain ⟨kind,place,minor⟩ := name
      cases kind <;> simp only [Issued] at old ⊢ <;> omega
    all_goals simp [Issued]
  · simp [results,returnNodes]
  · simp [routes]
  · intro route member
    rcases List.mem_append.mp member with old | new
    · exact Routed.mono grows (routed route old)
    · rw [List.mem_singleton.mp new]
      obtain ⟨node,inNodes,sort,facts⟩ := source
      refine ⟨by simp [ResultRoute.outputShareId,free],accumulated,by simp,node,grows inNodes,?_,facts⟩
      simp [ResultRoute.outputShareId,free,sort]

theorem finish (accumulated componentId outputBlockId : String)
    (working : Working slotCount needsMask reductions selections cross [accumulated] emission) :
    Working slotCount needsMask reductions selections 0 []
      (emission.finishResult slotCount needsMask accumulated componentId outputBlockId).1 := by
  cases needs : needsMask (toLex (componentId,outputBlockId)) with
  | true => exact working.finishMasked accumulated componentId outputBlockId needs
  | false => exact working.finishUnmasked accumulated componentId outputBlockId needs

end Working
end DynamicCssc
