import DynamicCssc.QueryReduction

/-! What the compilation has delivered so far: for each result the operands that went into it, and
the value of its lanes in terms of theirs. -/
namespace DynamicCssc
open Foundation CloudProgram

/-- One operand of a result: its values and columns, and how its lanes are summed and selected. -/
structure Part where
  ordinal : ℕ
  values : List ℤ
  columns : List ℤ
  terms : ℕ
  stride : ℕ
  selected : ℕ → Bool

def Part.valueId (part : Part) : String := (Name.mk .ctValue part.ordinal none).text
def Part.queryId (part : Part) : String := (Name.mk .ctQuery part.ordinal none).text

structure Outcome where
  componentId : String
  outputBlockId : String
  parts : List Part

def Outcome.share (outcome : Outcome) : ShareIdentity := toLex (outcome.componentId,outcome.outputBlockId)

def resultName (ordinal : ℕ) : String := (Name.mk .result ordinal none).text
def f1mName (ordinal : ℕ) : String := (Name.mk .ctF1m ordinal none).text

def Outcome.route (needsMask : ShareIdentity → Bool) (entry : Outcome × ℕ) : ResultRoute :=
  { resultId := resultName entry.2
    f1mCiphertextId := if needsMask entry.1.share then some (f1mName entry.2) else none
    componentId := entry.1.componentId
    outputBlockId := entry.1.outputBlockId }

section
variable {R : Type} [CommRing R] {slotCount : ℕ} {needsMask : ShareIdentity → Bool}

/-- The products of the values and the query, lane by lane. -/
def Part.products (lanes : Lanes R) (part : Part) (lane : ℕ) : R :=
  lanes part.valueId lane * lanes part.queryId lane

def Part.lane (lanes : Lanes R) (part : Part) (lane : ℕ) : R :=
  if part.selected lane then Strided.total (part.products lanes) part.stride part.terms lane else 0

/-- The operands of a part carry nothing beyond the row. -/
def Part.Quiet (width : ℕ) (lanes : Lanes R) (part : Part) : Prop :=
  DynamicCssc.Quiet width lanes part.valueId ∧ DynamicCssc.Quiet width lanes part.queryId

/-- The sums of a part lie inside the row wherever they are selected. -/
def Part.Fits (width : ℕ) (part : Part) : Prop :=
  ∀ lane < width, part.selected lane = true → lane + (part.terms - 1) * part.stride < width

/-- In every machine that solves the program, a ciphertext holds the contribution of a part. -/
def Computes (R : Type) [CommRing R] (width : ℕ) (emission : Emission) (part : Part) (id : String) : Prop :=
  ∀ lanes : Lanes R, Solves width emission.plaintextMasks lanes emission.nodes →
    (∀ lane < width, lanes id lane = part.lane lanes lane) ∧
      (part.Quiet width lanes → Quiet width lanes id)

theorem Computes.mono {before after : Emission} {part : Part} {id : String}
    (masks : before.plaintextMasks ⊆ after.plaintextMasks) (nodes : before.nodes ⊆ after.nodes)
    (computes : Computes R slotCount before part id) : Computes R slotCount after part id :=
  fun lanes solves => computes lanes (Solves.mono masks nodes solves)

/-- The relinearized product of an operand. -/
def Product (R : Type) [CommRing R] (width : ℕ) (emission : Emission) (part : Part) (id : String) : Prop :=
  ∀ lanes : Lanes R, Solves width emission.plaintextMasks lanes emission.nodes →
    (∀ lane < width, lanes id lane = part.products lanes lane) ∧
      (part.Quiet width lanes → Quiet width lanes id)

theorem Product.later {before after : Emission} {part : Part} {id : String}
    (extend : Extends before after) (product : Product R slotCount before part id) :
    Product R slotCount after part id :=
  fun lanes solves => product lanes (solves.before extend)

theorem appendOperand_product (emission : Emission) (part : Part)
    (ordinal : part.ordinal = emission.operandOrdinal) :
    Product R slotCount (emission.appendOperand slotCount).1 part
      (emission.appendOperand slotCount).2.relinearizedId := by
  intro lanes solves
  have multiply : CloudNode.multiplyCiphertexts (Name.mk .ssaProduct emission.operandOrdinal none).text
      (Name.mk .ctValue emission.operandOrdinal none).text
      (Name.mk .ctQuery emission.operandOrdinal none).text ∈ (emission.appendOperand slotCount).1.nodes := by
    simp [Emission.appendOperand]
  have relinearize : CloudNode.relinearize (Name.mk .ssaRelinearized emission.operandOrdinal none).text
      (Name.mk .ssaProduct emission.operandOrdinal none).text ∈
        (emission.appendOperand slotCount).1.nodes := by
    simp [Emission.appendOperand]
  constructor
  · intro lane inside
    have product := solves.rows _ multiply lane inside
    rw [Part.products,Part.valueId,Part.queryId,ordinal,← product]
    exact solves.rows _ relinearize lane inside
  · intro quiet
    rw [Part.Quiet,Part.valueId,Part.queryId,ordinal] at quiet
    exact solves.quiet _ relinearize (solves.quiet _ multiply quiet.1 quiet.2)

/-- A selection keeps the sums of the selected lanes and nothing else. -/
theorem select_computes (emission : Emission) (part : Part) (source accumulated : String)
    (product : Product R slotCount emission part source)
    (sums : Sums R slotCount emission source part.stride part.terms accumulated)
    (fits : part.Fits slotCount) :
    Computes R slotCount (emission.select slotCount part.ordinal part.selected accumulated).1 part
      (emission.select slotCount part.ordinal part.selected accumulated).2 := by
  intro lanes solves
  have extend := select_extends slotCount part.ordinal part.selected accumulated emission
  have node : CloudNode.multiplyPlaintextMask (Name.mk .ssaSelected part.ordinal none).text accumulated
      (Name.mk .ptSelection part.ordinal none).text ∈
        (emission.select slotCount part.ordinal part.selected accumulated).1.nodes := by
    simp [Emission.select]
  have selects := solves.rows _ node
    ⟨(Name.mk .ptSelection part.ordinal none).text,slotCount,
      (List.range slotCount).map fun lane => if part.selected lane then 1 else 0⟩
    (by simp [Emission.select]) rfl
  refine ⟨?_,fun _ => solves.quiet _ node⟩
  intro lane inside
  have here : lanes (Name.mk .ssaSelected part.ordinal none).text lane = lanes accumulated lane *
      (((if part.selected lane then 1 else 0 : ℤ)) : R) := by
    simpa [List.getElem?_range inside] using selects lane inside
  show lanes (Name.mk .ssaSelected part.ordinal none).text lane = part.lane lanes lane
  rw [here,Part.lane]
  cases chosen : part.selected lane with
  | false => simp
  | true =>
    have reach := fits lane inside chosen
    rw [sums lanes (solves.before extend) lane reach]
    simp only [if_true,Int.cast_one,mul_one]
    apply Strided.total_congr
    intro j below
    refine (product lanes (solves.before extend)).1 _ ?_
    have step : j * part.stride ≤ (part.terms - 1) * part.stride := Nat.mul_le_mul_right _ (by omega)
    omega

theorem Product.computes {emission : Emission} {part : Part} {id : String}
    (product : Product R slotCount emission part id) (one : part.terms = 1)
    (all : ∀ lane < slotCount, part.selected lane = true) : Computes R slotCount emission part id := by
  intro lanes solves
  obtain ⟨rows,quiet⟩ := product lanes solves
  refine ⟨?_,quiet⟩
  intro lane inside
  rw [rows lane inside,Part.lane,if_pos (all lane inside),one,Strided.total_one]

/-- A returned ciphertext holds what the parts of its outcome contribute, and its mask. -/
def Delivers (R : Type) [CommRing R] (width : ℕ) (needsMask : ShareIdentity → Bool) (emission : Emission)
    (ordinal : ℕ) (outcome : Outcome) : Prop :=
  ∃ source, CloudNode.returnResult (resultName ordinal) source ∈ emission.nodes ∧
    ∀ lanes : Lanes R, Solves width emission.plaintextMasks lanes emission.nodes →
      (∀ lane < width, lanes source lane = (outcome.parts.map fun part => part.lane lanes lane).sum +
        if needsMask outcome.share then lanes (f1mName ordinal) lane else 0) ∧
      ((∀ part ∈ outcome.parts, part.Quiet width lanes) →
        (needsMask outcome.share = true → Quiet width lanes (f1mName ordinal)) → Quiet width lanes source)

def Part.key (part : Part) : String × String × List ℤ × List ℤ :=
  (part.valueId,part.queryId,part.values,part.columns)

def OperandSpec.key (spec : OperandSpec) : String × String × List ℤ × List ℤ :=
  (spec.valueCiphertextId,spec.queryCiphertextId,spec.values,spec.globalColumnIndices)

/-- What has been delivered when the given outcomes are complete and the current parts are under
way. -/
structure Progress (R : Type) [CommRing R] (slotCount : ℕ) (needsMask : ShareIdentity → Bool)
    (outcomes : List Outcome) (current : List Part) (emission : Emission) : Prop where
  inputs : ∀ operand, operand ∈ emission.ciphertextInputs ↔
    (∃ part ∈ outcomes.flatMap Outcome.parts ++ current,
      operand = ⟨part.valueId,.value,slotCount⟩ ∨ operand = ⟨part.queryId,.query,slotCount⟩) ∨
    ∃ ordinal outcome, outcomes[ordinal]? = some outcome ∧ needsMask outcome.share = true ∧
      operand = ⟨f1mName ordinal,.f1mMask,slotCount⟩
  ordinals : (outcomes.flatMap Outcome.parts ++ current).map Part.ordinal =
    List.range emission.operandOrdinal
  count : emission.resultOrdinal = outcomes.length
  routes : emission.routes = outcomes.zipIdx.map (Outcome.route needsMask)
  specs : emission.operandSpecs.map OperandSpec.key = (outcomes.flatMap Outcome.parts).map Part.key
  delivers : ∀ ordinal outcome, outcomes[ordinal]? = some outcome →
    Delivers R slotCount needsMask emission ordinal outcome

theorem Delivers.mono {before after : Emission} {ordinal : ℕ} {outcome : Outcome}
    (masks : before.plaintextMasks ⊆ after.plaintextMasks) (nodes : before.nodes ⊆ after.nodes)
    (delivers : Delivers R slotCount needsMask before ordinal outcome) :
    Delivers R slotCount needsMask after ordinal outcome := by
  obtain ⟨source,member,means⟩ := delivers
  exact ⟨source,nodes member,fun lanes solves => means lanes (Solves.mono masks nodes solves)⟩

/-- The lanes that a finished result sums up. -/
def Summed (R : Type) [CommRing R] (width : ℕ) (emission : Emission) (parts : List Part)
    (accumulated : String) : Prop :=
  ∀ lanes : Lanes R, Solves width emission.plaintextMasks lanes emission.nodes →
    (∀ lane < width, lanes accumulated lane = (parts.map fun part => part.lane lanes lane).sum) ∧
      ((∀ part ∈ parts, part.Quiet width lanes) → Quiet width lanes accumulated)

namespace Progress

variable {outcomes : List Outcome} {current : List Part} {emission : Emission}

theorem start : Progress R slotCount needsMask [] [] Emission.empty :=
  ⟨by simp [Emission.empty],rfl,rfl,rfl,rfl,by simp⟩

theorem later {after : Emission} (extend : Extends emission after)
    (progress : Progress R slotCount needsMask outcomes current emission) :
    Progress R slotCount needsMask outcomes current after := by
  obtain ⟨inputs,ordinals,count,routes,specs,delivers⟩ := progress
  refine ⟨?_,?_,?_,?_,?_,?_⟩
  · rw [extend.inputs]
    exact inputs
  · rw [extend.operands]
    exact ordinals
  · rw [extend.results]
    exact count
  · rw [extend.routes]
    exact routes
  · rw [extend.specs]
    exact specs
  · exact fun ordinal outcome found => (delivers ordinal outcome found).mono extend.masks extend.nodes

theorem operand (progress : Progress R slotCount needsMask outcomes current emission) (part : Part)
    (ordinal : part.ordinal = emission.operandOrdinal) :
    Progress R slotCount needsMask outcomes (current ++ [part]) (emission.appendOperand slotCount).1 := by
  obtain ⟨inputs,ordinals,count,routes,specs,delivers⟩ := progress
  refine ⟨?_,?_,count,routes,specs,?_⟩
  · intro operand
    have value : part.valueId = (Name.mk .ctValue emission.operandOrdinal none).text := by
      rw [Part.valueId,ordinal]
    have query : part.queryId = (Name.mk .ctQuery emission.operandOrdinal none).text := by
      rw [Part.queryId,ordinal]
    rw [← List.append_assoc]
    simp only [Emission.appendOperand,List.mem_append,inputs,List.mem_cons,List.not_mem_nil,or_false,
      ← value,← query,or_and_right,exists_or,exists_eq_left]
    exact or_right_comm
  · rw [← List.append_assoc,List.map_append,ordinals]
    simp [Emission.appendOperand,List.range_succ,ordinal]
  · intro place outcome found
    have masks : emission.plaintextMasks ⊆ (emission.appendOperand slotCount).1.plaintextMasks :=
      List.Subset.refl _
    have nodes : emission.nodes ⊆ (emission.appendOperand slotCount).1.nodes :=
      List.subset_append_left _ _
    exact (delivers place outcome found).mono masks nodes

private theorem finish_delivers (accumulated : String) (outcome : Outcome)
    (summed : Summed R slotCount emission outcome.parts accumulated) :
    Delivers R slotCount needsMask
      (emission.finishResult slotCount needsMask accumulated outcome.componentId
        outcome.outputBlockId).1 emission.resultOrdinal outcome := by
  rw [Emission.finishResult]
  cases needs : needsMask (toLex (outcome.componentId,outcome.outputBlockId)) with
  | true =>
    have share : needsMask outcome.share = true := needs
    refine ⟨(Name.mk .ssaMasked emission.resultOrdinal none).text,by simp [resultName],?_⟩
    intro lanes solves
    have node : CloudNode.addF1MMask (Name.mk .ssaMasked emission.resultOrdinal none).text accumulated
        (Name.mk .ctF1m emission.resultOrdinal none).text opaqueZeroSum ∈ emission.nodes ++ [
          .addF1MMask (Name.mk .ssaMasked emission.resultOrdinal none).text accumulated
            (Name.mk .ctF1m emission.resultOrdinal none).text opaqueZeroSum,
          .returnResult (Name.mk .result emission.resultOrdinal none).text
            (Name.mk .ssaMasked emission.resultOrdinal none).text] := by simp
    have solves : Solves slotCount emission.plaintextMasks lanes (emission.nodes ++ _) := solves
    obtain ⟨rows,quiet⟩ := summed lanes
      (Solves.mono (List.Subset.refl _) (List.subset_append_left _ _) solves)
    constructor
    · intro lane inside
      rw [if_pos share,← rows lane inside]
      exact solves.rows _ node lane inside
    · intro parts mask
      exact solves.quiet _ node (quiet parts) (mask share)
  | false =>
    have share : needsMask outcome.share = false := needs
    refine ⟨accumulated,by simp [resultName],?_⟩
    intro lanes solves
    have solves : Solves slotCount emission.plaintextMasks lanes (emission.nodes ++ _) := solves
    obtain ⟨rows,quiet⟩ := summed lanes
      (Solves.mono (List.Subset.refl _) (List.subset_append_left _ _) solves)
    refine ⟨fun lane inside => ?_,fun parts _ => quiet parts⟩
    rw [share]
    simpa using rows lane inside

theorem finishResult_fields (slotCount : ℕ) (needsMask : ShareIdentity → Bool) (emission : Emission)
    (accumulated : String) (outcome : Outcome) :
    let out := (emission.finishResult slotCount needsMask accumulated outcome.componentId
      outcome.outputBlockId).1
    (out.ciphertextInputs = emission.ciphertextInputs ++
        if needsMask outcome.share then [⟨f1mName emission.resultOrdinal,.f1mMask,slotCount⟩] else []) ∧
      out.routes = emission.routes ++ [Outcome.route needsMask (outcome,emission.resultOrdinal)] ∧
      out.operandSpecs = emission.operandSpecs ∧ out.operandOrdinal = emission.operandOrdinal ∧
      out.resultOrdinal = emission.resultOrdinal + 1 ∧
      out.plaintextMasks = emission.plaintextMasks ∧ emission.nodes ⊆ out.nodes := by
  rw [Emission.finishResult]
  cases needs : needsMask (toLex (outcome.componentId,outcome.outputBlockId)) with
  | true =>
    have share : needsMask outcome.share = true := needs
    simp [share,Outcome.route,resultName,f1mName]
  | false =>
    have share : needsMask outcome.share = false := needs
    simp [share,Outcome.route,resultName]

private theorem getElem?_concat_iff {α : Type} (items : List α) (last item : α) (index : ℕ) :
    (items ++ [last])[index]? = some item ↔
      items[index]? = some item ∨ index = items.length ∧ last = item := by
  rw [List.getElem?_append]
  split
  · rename_i below
    constructor
    · exact .inl
    · intro either
      rcases either with here | ⟨same,_⟩
      · exact here
      · omega
  · rename_i beyond
    have out : items[index]? = none := List.getElem?_eq_none (by omega)
    rw [out,List.getElem?_singleton]
    constructor
    · intro found
      split at found
      · exact .inr ⟨by omega,Option.some.inj found⟩
      · cases found
    · intro either
      rcases either with here | ⟨same,rfl⟩
      · cases here
      · rw [if_pos (by omega)]

theorem finish (progress : Progress R slotCount needsMask outcomes current emission)
    (accumulated : String) (outcome : Outcome) (parts : outcome.parts = current)
    (specs : List OperandSpec) (keys : specs.map OperandSpec.key = current.map Part.key)
    (summed : Summed R slotCount emission current accumulated) :
    Progress R slotCount needsMask (outcomes ++ [outcome]) []
      ((emission.finishResult slotCount needsMask accumulated outcome.componentId
        outcome.outputBlockId).1.appendSpecs specs) := by
  have fresh : Delivers R slotCount needsMask _ emission.resultOrdinal outcome :=
    finish_delivers accumulated outcome (parts ▸ summed)
  obtain ⟨inputs,ordinals,count,routes,specKeys,delivers⟩ := progress
  obtain ⟨newInputs,newRoutes,newSpecs,sameOperands,next,sameMasks,grows⟩ :=
    finishResult_fields slotCount needsMask emission accumulated outcome
  have flat : (outcomes ++ [outcome]).flatMap Outcome.parts ++ [] =
      outcomes.flatMap Outcome.parts ++ current := by simp [parts]
  refine ⟨?_,?_,?_,?_,?_,?_⟩
  · intro operand
    rw [flat]
    show operand ∈ Emission.ciphertextInputs (Prod.fst _) ↔ _
    rw [newInputs,List.mem_append,inputs,or_assoc]
    refine or_congr Iff.rfl ?_
    simp only [getElem?_concat_iff,or_and_right,exists_or]
    refine or_congr Iff.rfl ?_
    rw [count]
    constructor
    · intro new
      split at new
      · rename_i needs
        exact ⟨_,outcome,⟨rfl,rfl⟩,needs,List.mem_singleton.mp new⟩
      · simp at new
    · intro ⟨ordinal,other,⟨place,same⟩,needs,equal⟩
      subst place same
      rw [if_pos needs,equal]
      exact List.mem_singleton.mpr rfl
  · rw [flat,ordinals]
    exact congrArg List.range sameOperands.symm
  · show Emission.resultOrdinal (Prod.fst _) = _
    rw [next,count]
    simp
  · show Emission.routes (Prod.fst _) = _
    rw [newRoutes,routes,count,List.zipIdx_append]
    simp
  · show (Emission.operandSpecs (Prod.fst _) ++ specs).map OperandSpec.key = _
    rw [newSpecs,List.map_append,specKeys,keys]
    simp [parts]
  · intro ordinal other found
    have later : Delivers R slotCount needsMask
        (emission.finishResult slotCount needsMask accumulated outcome.componentId
          outcome.outputBlockId).1 ordinal other := by
      rcases (getElem?_concat_iff _ _ _ _).mp found with old | ⟨place,same⟩
      · refine (delivers ordinal other old).mono ?_ grows
        rw [sameMasks]
        exact List.Subset.refl _
      · rw [place,← same,← count]
        exact fresh
    exact later

end Progress
end
end DynamicCssc
