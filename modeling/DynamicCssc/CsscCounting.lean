import DynamicCssc.PublishedComponents
import DynamicCssc.QueryCompiler

/-! `build_cssc_layout`, the counting model of a block: it agrees chunk by chunk with the block that
`publish_component` lays out, and its rotation proxy with the rotations that a chunk is compiled to. -/
namespace DynamicCssc
open Foundation

structure CSSCChunk where
  chunkId : ℕ
  startColumn : ℕ
  width : ℕ
  height : ℕ
  usedSlots : ℕ
  rectangularSlots : ℕ
  paddingByPhysicalRow : List ℕ
deriving DecidableEq, Repr

def bitLength (number : ℕ) : ℕ := number.size

def bitCount (number : ℕ) : ℕ := (List.range number.size).countP number.testBit

def CSSCChunk.aggregationRotationsProxy (chunk : CSSCChunk) : ℕ :=
  if chunk.width ≤ 1 then 0 else bitLength chunk.width - 1 + bitCount chunk.width - 1

structure CSSCLayout where
  logicalRowOrder : List ℕ
  physicalRowLengths : List ℕ
  chunks : List CSSCChunk
  paddingChunkIdsByLogicalRow : List (List ℕ)
  valueChunkIdsByCoordinateRank : List (List ℕ)
  effectiveSlots : ℕ
deriving DecidableEq, Repr

namespace CSSCLayout

/-- The lists that the loop over the lanes of one chunk fills. -/
structure CountDraft where
  paddingByLogical : List (List ℕ)
  valueChunksByLogical : List (List ℕ)
  paddingCounts : List ℕ

def countLane (chunkId column logicalRow rowLength physicalRow : ℕ) (draft : CountDraft)
    (localColumn : ℕ) : CountDraft :=
  if column + localColumn < rowLength then
    { draft with
      valueChunksByLogical := draft.valueChunksByLogical.modify logicalRow fun ids => ids ++ [chunkId] }
  else
    { draft with
      paddingCounts := draft.paddingCounts.modify physicalRow fun count => count + 1
      paddingByLogical := draft.paddingByLogical.modify logicalRow fun ids => ids ++ [chunkId] }

def countRow (chunkId column width : ℕ) (order physicalLengths : List ℕ) (draft : CountDraft)
    (physicalRow : ℕ) : CountDraft :=
  (List.range width).foldl (countLane chunkId column ((order[physicalRow]?).getD 0)
    ((physicalLengths[physicalRow]?).getD 0) physicalRow) draft

structure LayoutDraft where
  column : ℕ
  chunkId : ℕ
  chunks : List CSSCChunk
  paddingByLogical : List (List ℕ)
  valueChunksByLogical : List (List ℕ)

/-- The body of `while column < max_width`. -/
def layoutChunk (effectiveSlots : ℕ) (order physicalLengths columnHeights : List ℕ) (draft : LayoutDraft) :
    Checked LayoutDraft := do
  let height := (columnHeights[draft.column]?).getD 0
  let width := min (physicalLengths.foldr max 0 - draft.column) (effectiveSlots / height)
  Checked.require (0 < width) ⟨.valueError,"column height " ++ Nat.repr height ++
    " exceeds effective slot capacity " ++ Nat.repr effectiveSlots⟩
  let used := ((columnHeights.drop draft.column).take width).sum
  let counted := (List.range height).foldl (countRow draft.chunkId draft.column width order physicalLengths)
    ⟨draft.paddingByLogical,draft.valueChunksByLogical,List.replicate height 0⟩
  return {
    column := draft.column + width
    chunkId := draft.chunkId + 1
    chunks := draft.chunks ++ [{
      chunkId := draft.chunkId
      startColumn := draft.column
      width := width
      height := height
      usedSlots := used
      rectangularSlots := height * width
      paddingByPhysicalRow := counted.paddingCounts }]
    paddingByLogical := counted.paddingByLogical
    valueChunksByLogical := counted.valueChunksByLogical }

end CSSCLayout

/-- `build_cssc_layout`; `rounds` bounds the chunks. -/
def buildCsscLayout (rounds : ℕ) (rowLengths : List ℤ) (effectiveSlots : ℤ) : Checked CSSCLayout := do
  Checked.require (0 < effectiveSlots) ⟨.valueError,"effective_slots must be positive"⟩
  Checked.require (∀ length ∈ rowLengths, 0 ≤ length) ⟨.valueError,"row lengths must be nonnegative"⟩
  let order := Sorting.sortedBy
    (fun row : ℕ => (toLex (-(rowLengths[row]?).getD 0,row) : ℤ ×ₗ ℕ)) (List.range rowLengths.length)
  let physicalLengths := order.map fun row => ((rowLengths[row]?).getD 0).toNat
  let maxWidth := physicalLengths.foldr max 0
  let columnHeights := (List.range maxWidth).map fun column =>
    physicalLengths.countP fun length => column < length
  let laid ← Loop.run
    (fun draft : CSSCLayout.LayoutDraft =>
      draft.column < maxWidth && 0 < (columnHeights[draft.column]?).getD 0)
    (CSSCLayout.layoutChunk effectiveSlots.toNat order physicalLengths columnHeights)
    ⟨.nonTermination,"the chunks of the layout do not end"⟩ rounds
    { column := 0
      chunkId := 0
      chunks := []
      paddingByLogical := List.replicate rowLengths.length []
      valueChunksByLogical := List.replicate rowLengths.length [] }
  return {
    logicalRowOrder := order
    physicalRowLengths := physicalLengths
    chunks := laid.chunks
    paddingChunkIdsByLogicalRow := laid.paddingByLogical
    valueChunkIdsByCoordinateRank := laid.valueChunksByLogical
    effectiveSlots := effectiveSlots.toNat }

def ValueChunk.rowPadding (chunk : ValueChunk) (physicalRow : ℕ) : ℕ :=
  (List.range chunk.width).countP fun localColumn =>
    (chunk.lanes[localColumn * chunk.height + physicalRow]?).map Lane.kind = some .naturalPadding

def Emission.rotations (emission : Emission) : ℕ :=
  emission.nodes.countP fun node => match node with
    | .rotate _ _ _ _ => true
    | _ => false

/-- A counted chunk is right about a published one. -/
structure CSSCChunk.Counts (counted : CSSCChunk) (chunk : ValueChunk) : Prop where
  startColumn : counted.startColumn = chunk.startColumn
  width : counted.width = chunk.width
  height : counted.height = chunk.height
  rectangularSlots : counted.rectangularSlots = chunk.rectangularSlots
  usedSlots : counted.usedSlots = chunk.usedSlots + chunk.reservedSlots
  padding : counted.paddingByPhysicalRow = (List.range chunk.height).map chunk.rowPadding
  rotations : ∀ (ordinal : ℕ) (source : String) (emission : Emission),
    (emission.appendCsscReduction ordinal source chunk.width chunk.height).1.rotations =
      emission.rotations + counted.aggregationRotationsProxy

/-! The rotation proxy. -/

private theorem Emission.rotations_rotateAdd (rotated sum : Name) (source accumulated : String) (shift : ℕ)
    (emission : Emission) :
    (emission.rotateAdd rotated sum source accumulated shift).rotations = emission.rotations + 1 := by
  simp [Emission.rotations,Emission.rotateAdd]

private theorem doubleLoop_rotations (ordinal width height fuel exponent : ℕ) (powers : List (ℕ × String))
    (emission : Emission) (inside : 2 ^ exponent ≤ width) (enough : width < 2 ^ exponent + fuel) :
    let out := Emission.doubleLoop ordinal width height fuel (2 ^ exponent) powers emission
    ∃ final, exponent ≤ final ∧ out.2.1 = 2 ^ final ∧ 2 ^ final ≤ width ∧ width < 2 ^ (final + 1) ∧
      out.1.rotations = emission.rotations + (final - exponent) := by
  induction fuel generalizing exponent powers emission with
  | zero => omega
  | succ fuel ih =>
    have positive : 0 < 2 ^ exponent := by positivity
    rw [Emission.doubleLoop]
    split
    · rename_i room
      have next := ih (exponent + 1) ((2 * 2 ^ exponent,
          (Name.mk .ssaColumnSum ordinal (some (2 ^ exponent))).text) :: powers)
        (emission.rotateAdd ⟨.ssaRotate,ordinal,some (2 ^ exponent)⟩
          ⟨.ssaColumnSum,ordinal,some (2 ^ exponent)⟩ ((powers.lookup (2 ^ exponent)).getD "")
          ((powers.lookup (2 ^ exponent)).getD "") (2 ^ exponent * height))
        (by rw [pow_succ,mul_comm]; exact room) (by rw [pow_succ]; omega)
      rw [show 2 ^ (exponent + 1) = 2 * 2 ^ exponent from by rw [pow_succ,mul_comm]] at next
      obtain ⟨final,more,span,low,high,counted⟩ := next
      refine ⟨final,by omega,span,low,high,?_⟩
      rw [Emission.rotations_rotateAdd] at counted
      rw [counted]
      omega
    · rename_i full
      refine ⟨exponent,le_rfl,rfl,inside,?_,by simp⟩
      rw [pow_succ]
      omega

private theorem prefixLoop_rotations (ordinal width height : ℕ) (powers : List (ℕ × String)) (fuel bits covered : ℕ)
    (accumulated : String) (emission : Emission) (enough : bits ≤ fuel) :
    (Emission.prefixLoop ordinal width height powers fuel (2 ^ bits / 2) covered accumulated
      emission).1.rotations = emission.rotations + (List.range bits).countP width.testBit := by
  induction fuel generalizing bits covered accumulated emission with
  | zero =>
    have none : bits = 0 := by omega
    subst none
    rfl
  | succ fuel ih =>
    cases bits with
    | zero => rfl
    | succ bit =>
      have half : 2 ^ (bit + 1) / 2 = 2 ^ bit := by
        rw [pow_succ]
        omega
      have nonzero : 2 ^ bit ≠ 0 := by positivity
      rw [half,Emission.prefixLoop,if_neg nonzero,List.range_succ,List.countP_append]
      split
      · rename_i set
        have bitSet : width.testBit bit = true := by
          rw [Nat.and_two_pow] at set
          by_contra clear
          simp [clear] at set
        rw [ih bit _ _ _ (by omega),Emission.rotations_rotateAdd]
        simp [bitSet]
        omega
      · rename_i clear
        have bitClear : width.testBit bit = false := by
          rw [Nat.and_two_pow] at clear
          by_contra set
          simp [set] at clear
        rw [ih bit _ _ _ (by omega)]
        simp [bitClear]

private theorem bitCount_split {number exponent : ℕ} (low : 2 ^ exponent ≤ number) (high : number < 2 ^ (exponent + 1)) :
    bitLength number = exponent + 1 ∧
      bitCount number = (List.range exponent).countP number.testBit + 1 := by
  have size : number.size = exponent + 1 :=
    le_antisymm (Nat.size_le.mpr high) (Nat.lt_size.mpr low)
  have top : number.testBit exponent = true := by
    have quotient : number / 2 ^ exponent = 1 := by
      apply Nat.div_eq_of_lt_le <;> omega
    rw [Nat.testBit_eq_decide_div_mod_eq,quotient]
    rfl
  refine ⟨size,?_⟩
  rw [bitCount,size,List.range_succ,List.countP_append]
  simp [top]

private theorem appendCsscReduction_rotations (ordinal width height : ℕ) (source : String) (emission : Emission)
    (wide : 0 < width) :
    (emission.appendCsscReduction ordinal source width height).1.rotations =
      emission.rotations + if width ≤ 1 then 0 else bitLength width - 1 + bitCount width - 1 := by
  rw [Emission.appendCsscReduction]
  split
  · rename_i one
    rw [if_pos one.le]
    rfl
  · rename_i many
    rw [if_neg (by omega)]
    obtain ⟨final,_,span,low,high,counted⟩ := doubleLoop_rotations ordinal width height width 0
      [(1,source)] emission wide (by rw [pow_zero]; omega)
    rw [pow_zero] at span counted
    dsimp only
    rw [span,prefixLoop_rotations _ _ _ _ _ final _ _ _ (Nat.lt_two_pow_self).le,counted,
      (bitCount_split low high).1,(bitCount_split low high).2]
    omega

/-! One counted chunk. -/

section Count
variable {chunkId column width : ℕ} {order physicalLengths : List ℕ}

def paddingOf (physicalLengths : List ℕ) (column width physicalRow : ℕ) : ℕ :=
  (List.range width).countP fun localColumn => (physicalLengths[physicalRow]?).getD 0 ≤ column + localColumn

private theorem countLane_padding (logicalRow rowLength physicalRow : ℕ) (draft : CSSCLayout.CountDraft) (count : ℕ) :
    ((List.range count).foldl (CSSCLayout.countLane chunkId column logicalRow rowLength physicalRow)
      draft).paddingCounts = draft.paddingCounts.modify physicalRow fun padding => padding +
        (List.range count).countP fun localColumn => rowLength ≤ column + localColumn := by
  induction count with
  | zero => exact (List.modify_id _ _).symm
  | succ count ih =>
    rw [List.range_succ,List.foldl_append,List.foldl_cons,List.foldl_nil,CSSCLayout.countLane,
      List.countP_append]
    split
    · rename_i value
      rw [ih]
      simp [value]
    · rename_i padding
      dsimp only
      rw [ih,List.modify_modify_eq]
      congr 1
      funext before
      simp [not_lt.mp padding]
      omega

private theorem countRow_padding (draft : CSSCLayout.CountDraft) (physicalRow : ℕ) :
    (CSSCLayout.countRow chunkId column width order physicalLengths draft physicalRow).paddingCounts =
      draft.paddingCounts.modify physicalRow fun padding =>
        padding + paddingOf physicalLengths column width physicalRow :=
  countLane_padding _ _ _ _ _

private theorem countRows_padding (height : ℕ) (paddingByLogical valueChunksByLogical : List (List ℕ)) :
    ((List.range height).foldl (CSSCLayout.countRow chunkId column width order physicalLengths)
      ⟨paddingByLogical,valueChunksByLogical,List.replicate height 0⟩).paddingCounts =
        (List.range height).map (paddingOf physicalLengths column width) := by
  have rows : ∀ count ≤ height, ((List.range count).foldl
      (CSSCLayout.countRow chunkId column width order physicalLengths)
      ⟨paddingByLogical,valueChunksByLogical,List.replicate height 0⟩).paddingCounts =
        (List.range height).map fun row => if row < count then paddingOf physicalLengths column width row
          else 0 := by
    intro count
    induction count with
    | zero =>
      intro _
      simp
    | succ count ih =>
      intro within
      rw [List.range_succ,List.foldl_append,List.foldl_cons,List.foldl_nil,countRow_padding,ih (by omega)]
      apply List.ext_getElem (by simp)
      intro row left right
      rw [List.getElem_modify]
      have inside : row < height := by simpa using right
      by_cases here : count = row
      · subst here
        simp
      · have same : row < count ↔ row < count + 1 := by omega
        simp [here,same]
  rw [rows height le_rfl]
  apply List.map_congr_left
  intro row member
  rw [if_pos (List.mem_range.mp member)]

end Count

section Chunk
variable {table : RowTable} {slots : ℕ} {blockId : String} {rowMap : List ℕ}

private theorem countP_range_lt (count bound : ℕ) (inside : bound ≤ count) :
    (List.range count).countP (fun place => place < bound) = bound := by
  induction count with
  | zero =>
    have none : bound = 0 := by omega
    rw [none]
    rfl
  | succ count ih =>
    rw [List.range_succ,List.countP_append]
    rcases Nat.lt_or_eq_of_le inside with below | all
    · rw [ih (by omega)]
      simp
      omega
    · subst all
      have every : (List.range count).countP (fun place => place < count + 1) = count := by
        conv_rhs => rw [← List.length_range (n := count)]
        rw [List.countP_eq_length]
        intro place member
        have := List.mem_range.mp member
        exact decide_eq_true (by omega)
      rw [every]
      simp

private theorem reaching_antitone {column later : ℕ} (ordered : column ≤ later) :
    table.reaching rowMap later ≤ table.reaching rowMap column := by
  apply List.countP_mono_left
  intro capacity _ beyond
  simp only [decide_eq_true_eq] at beyond ⊢
  omega

private theorem reaching_rows (ordered : Descending table rowMap) {column rank : ℕ} (after : column ≤ rank) :
    (List.range (table.reaching rowMap column)).countP (fun place =>
      rank < table.capacity ((rowMap[place]?).getD 0)) = table.reaching rowMap rank := by
  have shorter := @reaching_antitone table rowMap _ _ after
  rw [← countP_range_lt _ _ shorter]
  apply List.countP_congr
  intro place member
  have inside : place < rowMap.length := (List.mem_range.mp member).trans_le (reaching_le column)
  have here : rowMap[place]? = some rowMap[place] := List.getElem?_eq_getElem inside
  simp only [decide_eq_true_eq]
  rw [lt_reaching ordered rank place _ here,here,Option.getD_some]

def countedChunk (table : RowTable) (slots : ℕ) (rowMap : List ℕ) (column index : ℕ) : CSSCChunk :=
  let width := table.chunkWidth slots rowMap column
  let height := table.reaching rowMap column
  { chunkId := index
    startColumn := column
    width := width
    height := height
    usedSlots := ((List.range width).map fun place => table.reaching rowMap (column + place)).sum
    rectangularSlots := height * width
    paddingByPhysicalRow := (List.range height).map (paddingOf (rowMap.map table.capacity) column width) }

private theorem rectangleLane_kind (table : RowTable) (rowMap : List ℕ) (column height slot : ℕ) :
    (rectangleLane table rowMap column height slot).kind = .naturalPadding ↔
      table.capacity ((rowMap[slot % height]?).getD 0) ≤ column + slot / height := by
  rw [rectangleLane]
  constructor
  · intro padding
    by_contra below
    have stored := laneAt_materialized table _ _ (not_le.mp below)
    rw [padding] at stored
    cases stored
  · exact laneAt_padding table _ _

private theorem rectangleLane_used (table : RowTable) (rowMap : List ℕ) (column height slot : ℕ) :
    (if (rectangleLane table rowMap column height slot).kind = .actual then 1 else 0) +
      (if (rectangleLane table rowMap column height slot).kind = .reserved then 1 else 0) =
    if column + slot / height < table.capacity ((rowMap[slot % height]?).getD 0) then 1 else 0 := by
  rw [rectangleLane,laneAt]
  by_cases beyond : table.capacity ((rowMap[slot % height]?).getD 0) ≤ column + slot / height
  · rw [if_pos beyond,if_neg (not_lt.mpr beyond)]
    rfl
  · rw [if_neg beyond,if_pos (not_le.mp beyond)]
    cases (table.entries ((rowMap[slot % height]?).getD 0))[column + slot / height]? <;> rfl

private theorem countP_add_countP {α : Type} (p q r : α → Bool) (items : List α)
    (split : ∀ item, (if p item then 1 else 0) + (if q item then 1 else 0) = if r item then 1 else 0) :
    items.countP p + items.countP q = items.countP r := by
  induction items with
  | nil => rfl
  | cons item items ih =>
    have here := split item
    simp only [List.countP_cons]
    omega

private theorem laidChunk_used (ordered : Descending table rowMap) (column index : ℕ) :
    (laidChunk table slots blockId rowMap column index).usedSlots +
      (laidChunk table slots blockId rowMap column index).reservedSlots =
    ((List.range (table.chunkWidth slots rowMap column)).map fun place =>
      table.reaching rowMap (column + place)).sum := by
  rw [laidChunk]
  dsimp only
  rw [List.countP_map,List.countP_map,countP_add_countP _ _ (fun slot => decide
    (column + slot / table.reaching rowMap column <
      table.capacity ((rowMap[slot % table.reaching rowMap column]?).getD 0)))]
  · have places : (List.range (table.chunkWidth slots rowMap column * table.reaching rowMap column)).countP
        (fun slot => decide (column + slot / table.reaching rowMap column <
          table.capacity ((rowMap[slot % table.reaching rowMap column]?).getD 0))) =
        (rectanglePlaces (table.chunkWidth slots rowMap column) (table.reaching rowMap column)).countP
          fun place => decide (column + place.1 < table.capacity ((rowMap[place.2]?).getD 0)) := by
      rw [rectanglePlaces_eq,List.countP_map]
      rfl
    rw [places,rectanglePlaces,List.countP_flatMap]
    congr 1
    apply List.map_congr_left
    intro place _
    rw [Function.comp_apply,List.countP_map]
    exact reaching_rows ordered (Nat.le_add_right _ _)
  · intro slot
    have used := rectangleLane_used table rowMap column
      (table.reaching rowMap column) slot
    simpa using used

private theorem laidChunk_padding (column index physicalRow : ℕ) (inside : physicalRow < table.reaching rowMap column) :
    (laidChunk table slots blockId rowMap column index).rowPadding physicalRow =
      paddingOf (rowMap.map table.capacity) column (table.chunkWidth slots rowMap column) physicalRow := by
  have present : physicalRow < rowMap.length := inside.trans_le (reaching_le column)
  apply List.countP_congr
  intro place member
  have wide := List.mem_range.mp member
  have tall : 0 < table.reaching rowMap column := by omega
  have within : place * table.reaching rowMap column + physicalRow <
      table.chunkWidth slots rowMap column * table.reaching rowMap column := by
    calc place * table.reaching rowMap column + physicalRow
        < place * table.reaching rowMap column + table.reaching rowMap column := by omega
      _ = (place + 1) * table.reaching rowMap column := by ring
      _ ≤ _ := Nat.mul_le_mul_right _ wide
  have lane := @laidChunk_inside table slots blockId rowMap column index _ within
  have modulus : (place * table.reaching rowMap column + physicalRow) % table.reaching rowMap column =
      physicalRow := by
    rw [Nat.mul_comm,Nat.mul_add_mod,Nat.mod_eq_of_lt inside]
  have division : (place * table.reaching rowMap column + physicalRow) / table.reaching rowMap column =
      place := by
    rw [Nat.mul_comm,Nat.mul_add_div tall,Nat.div_eq_of_lt inside,Nat.add_zero]
  have kind := rectangleLane_kind table rowMap column
    (table.reaching rowMap column) (place * table.reaching rowMap column + physicalRow)
  rw [modulus,division] at kind
  simp only [decide_eq_true_eq]
  rw [show (laidChunk table slots blockId rowMap column index).height = table.reaching rowMap column from rfl,
    lane,Option.map_some,Option.some.injEq,kind,List.getElem?_map,List.getElem?_eq_getElem present]
  rfl

private theorem countedChunk_counts (ordered : Descending table rowMap) (column index : ℕ)
    (wide : 0 < table.chunkWidth slots rowMap column) :
    (countedChunk table slots rowMap column index).Counts
      (laidChunk table slots blockId rowMap column index) where
  startColumn := rfl
  width := rfl
  height := rfl
  rectangularSlots := rfl
  usedSlots := (laidChunk_used ordered column index).symm
  padding := by
    apply List.map_congr_left
    intro physicalRow member
    exact (laidChunk_padding column index physicalRow (List.mem_range.mp member)).symm
  rotations := fun ordinal source emission =>
    appendCsscReduction_rotations ordinal _ _ source emission wide

end Chunk

/-! The loop over the chunks. -/

section Layout
variable {table : RowTable} {slots : ℕ} {blockId : String} {rowMap : List ℕ}

/-- `column_heights` of a block. -/
def heightsOf (table : RowTable) (rowMap : List ℕ) : List ℕ :=
  (List.range (table.widest rowMap)).map (table.reaching rowMap)

private theorem heightsOf_get {column : ℕ} (inside : column < table.widest rowMap) :
    ((heightsOf table rowMap)[column]?).getD 0 = table.reaching rowMap column := by
  simp [heightsOf,inside]

private theorem heightsOf_slice (column width : ℕ) (inside : column + width ≤ table.widest rowMap) :
    ((heightsOf table rowMap).drop column).take width =
      (List.range width).map fun place => table.reaching rowMap (column + place) := by
  apply List.ext_getElem
  · simp [heightsOf]
    omega
  · intro place left right
    simp [heightsOf]

private theorem layoutChunk_eq (order : List ℕ) (draft : CSSCLayout.LayoutDraft)
    (inside : draft.column < table.widest rowMap) (wide : 0 < table.chunkWidth slots rowMap draft.column) :
    ∃ next, CSSCLayout.layoutChunk slots order (rowMap.map table.capacity) (heightsOf table rowMap) draft =
        .ok next ∧ next.column = draft.column + table.chunkWidth slots rowMap draft.column ∧
      next.chunkId = draft.chunkId + 1 ∧
      next.chunks = draft.chunks ++ [countedChunk table slots rowMap draft.column draft.chunkId] := by
  have width : min ((rowMap.map table.capacity).foldr max 0 - draft.column)
      (slots / table.reaching rowMap draft.column) = table.chunkWidth slots rowMap draft.column := rfl
  have short : table.chunkWidth slots rowMap draft.column ≤ table.widest rowMap - draft.column :=
    Nat.min_le_left _ _
  have slice := @heightsOf_slice table rowMap draft.column (table.chunkWidth slots rowMap draft.column)
    (by omega)
  unfold CSSCLayout.layoutChunk
  simp only [heightsOf_get inside,width,slice,countRows_padding]
  refine ⟨_,Checked.pass _ _ _ (Checked.require_true _ _ wide) rfl,rfl,rfl,rfl⟩

private theorem layout_chunks (order : List ℕ) (ordered : Descending table rowMap) (fits : rowMap.length ≤ slots)
    (start : CSSCLayout.LayoutDraft) (fresh : start.column = 0 ∧ start.chunkId = 0 ∧ start.chunks = []) :
    ∃ final : CSSCLayout.LayoutDraft, (∀ chunks, Laid table slots blockId rowMap 0 0 chunks
        (table.widest rowMap) → List.Forall₂ CSSCChunk.Counts final.chunks chunks) ∧
      ∀ rounds, table.widest rowMap ≤ rounds →
        Loop.run (fun draft : CSSCLayout.LayoutDraft => draft.column < table.widest rowMap &&
            0 < ((heightsOf table rowMap)[draft.column]?).getD 0)
          (CSSCLayout.layoutChunk slots order (rowMap.map table.capacity) (heightsOf table rowMap))
          ⟨.nonTermination,"the chunks of the layout do not end"⟩ rounds start = .ok final := by
  obtain ⟨final,⟨low,real,laid,counts,_⟩,stopped,ends⟩ := Loop.run_ends
    (fun draft : CSSCLayout.LayoutDraft => draft.column < table.widest rowMap &&
      0 < ((heightsOf table rowMap)[draft.column]?).getD 0)
    (CSSCLayout.layoutChunk slots order (rowMap.map table.capacity) (heightsOf table rowMap))
    ⟨.nonTermination,"the chunks of the layout do not end"⟩
    (fun draft => draft.column ≤ table.widest rowMap ∧ ∃ real : List ValueChunk,
      Laid table slots blockId rowMap 0 0 real draft.column ∧
      List.Forall₂ CSSCChunk.Counts draft.chunks real ∧ draft.chunkId = real.length)
    (fun draft => table.widest rowMap - draft.column)
    (by
      intro draft ⟨_,real,laid,counts,index⟩ going
      have beyond : draft.column < table.widest rowMap := by
        simp only [Bool.and_eq_true,decide_eq_true_eq] at going
        exact going.1
      have positive := chunkWidth_pos fits beyond
      have short : table.chunkWidth slots rowMap draft.column ≤ table.widest rowMap - draft.column :=
        Nat.min_le_left _ _
      obtain ⟨next,made,column,chunkId,chunks⟩ := layoutChunk_eq order draft beyond positive
      have longer := laid.snoc beyond
      rw [Nat.zero_add,← index] at longer
      refine ⟨next,made,⟨by omega,_,column ▸ longer,?_,by simp [chunkId,index]⟩,by omega⟩
      rw [chunks]
      exact List.rel_append counts (List.Forall₂.cons
        (countedChunk_counts ordered draft.column draft.chunkId positive) List.Forall₂.nil))
    start ⟨by omega,[],fresh.1 ▸ rfl,fresh.2.2 ▸ List.Forall₂.nil,fresh.2.1⟩
  have closed : final.column = table.widest rowMap := by
    by_contra open_
    have beyond : final.column < table.widest rowMap := by omega
    rw [heightsOf_get beyond] at stopped
    simp [beyond,Nat.ne_of_gt (reaching_pos beyond)] at stopped
  refine ⟨final,?_,?_⟩
  · intro chunks other
    rw [other.unique (closed ▸ laid) le_rfl]
    exact counts
  · intro rounds enough
    exact ends rounds (by omega)

private theorem order_eq (table : RowTable) (first count : ℕ) :
    (Sorting.sortedBy (fun row : ℕ => (toLex (-((((List.range count).map fun place =>
        (table.capacity (first + place) : ℤ))[row]?).getD 0),row) : ℤ ×ₗ ℕ)) (List.range count)).map
      (first + ·) = sortedRows table (first,first + count) := by
  let key := fun row : ℕ => (toLex (-(table.capacity row : ℤ),row) : ℤ ×ₗ ℕ)
  have distinct : Function.Injective key := by
    intro left right same
    simp only [key,toLex_inj,Prod.mk.injEq] at same
    exact same.2
  apply Sorting.eq_of_perm_of_ordered key
  · refine ((Sorting.sortedBy_perm _ _).map _).trans (List.Perm.trans ?_ (sortedRows_perm _ _).symm)
    rw [Nat.add_sub_cancel_left,List.range'_eq_map_range]
  · refine List.Nodup.map distinct ?_
    refine List.Nodup.map (fun _ _ same => Nat.add_left_cancel same) ?_
    exact Sorting.sortedBy_nodup _ List.nodup_range
  · rw [List.pairwise_map]
    refine (Sorting.sortedBy_ordered _ _).imp_of_mem ?_
    intro left right hl hr order
    have inl : left < count := List.mem_range.mp ((Sorting.mem_sortedBy _ _ _).mp hl)
    have inr : right < count := List.mem_range.mp ((Sorting.mem_sortedBy _ _ _).mp hr)
    simp only [key,Prod.Lex.toLex_le_toLex,List.getElem?_map,List.getElem?_range inl,List.getElem?_range inr,
      Option.map_some,Option.getD_some] at order ⊢
    rcases order with less | same
    · exact Or.inl less
    · exact Or.inr ⟨same.1,by omega⟩
  · exact Sorting.sortedBy_ordered _ _

private theorem buildCsscLayout_block (table : RowTable) (blockId : String) (first count slots : ℕ) (fits : count ≤ slots)
    (positive : 0 < slots) :
    ∃ layout : CSSCLayout, (∀ rounds, table.widest (sortedRows table (first,first + count)) ≤ rounds →
        buildCsscLayout rounds ((List.range count).map fun place => (table.capacity (first + place) : ℤ))
          slots = .ok layout) ∧
      layout.logicalRowOrder.map (first + ·) = sortedRows table (first,first + count) ∧
      layout.physicalRowLengths = (sortedRows table (first,first + count)).map table.capacity ∧
      ∀ chunks, Laid table slots blockId (sortedRows table (first,first + count)) 0 0 chunks
        (table.widest (sortedRows table (first,first + count))) →
          List.Forall₂ CSSCChunk.Counts layout.chunks chunks := by
  let lengths := (List.range count).map fun place => (table.capacity (first + place) : ℤ)
  let order := Sorting.sortedBy (fun row : ℕ => (toLex (-(lengths[row]?).getD 0,row) : ℤ ×ₗ ℕ))
    (List.range count)
  have rows : order.map (first + ·) = sortedRows table (first,first + count) := order_eq table first count
  have capacities : order.map (fun row => ((lengths[row]?).getD 0).toNat) =
      (sortedRows table (first,first + count)).map table.capacity := by
    rw [← rows,List.map_map]
    apply List.map_congr_left
    intro row member
    have inside : row < count := List.mem_range.mp ((Sorting.mem_sortedBy _ _ _).mp member)
    simp [lengths,inside]
  have short : (sortedRows table (first,first + count)).length ≤ slots := by
    rw [sortedRows_length,Nat.add_sub_cancel_left]
    exact fits
  obtain ⟨final,counts,ends⟩ := @layout_chunks table slots blockId _ order (sortedRows_descending table _) short
    ⟨0,0,[],List.replicate count [],List.replicate count []⟩ ⟨rfl,rfl,rfl⟩
  refine ⟨⟨order,order.map fun row => ((lengths[row]?).getD 0).toNat,final.chunks,final.paddingByLogical,
    final.valueChunksByLogical,slots⟩,?_,rows,capacities,counts⟩
  intro rounds enough
  have length : lengths.length = count := by simp [lengths]
  have nonnegative : ∀ length ∈ lengths, 0 ≤ length := by
    intro length member
    obtain ⟨place,_,rfl⟩ := List.mem_map.mp member
    exact Int.natCast_nonneg _
  have loop := ends rounds enough
  have same : Sorting.sortedBy (fun row : ℕ => (toLex (-(lengths[row]?).getD 0,row) : ℤ ×ₗ ℕ))
      (List.range lengths.length) = order := by rw [length]
  refine Checked.pass _ _ _ (Checked.require_true _ _ (by omega)) ?_
  refine Checked.pass _ _ _ (Checked.require_true _ _ nonnegative) ?_
  dsimp only
  rw [same,capacities,Int.toNat_natCast,length]
  exact (Checked.bind_success _ _ _).mpr ⟨final,loop,rfl⟩

end Layout

/-- The counting model is right about every block that is published, and there is one for each range of
rows: it sorts the rows as the block does and counts the block's chunks one by one. -/
theorem counting_model_exact {state : SparseState} {rows cols effectiveSlots : ℤ}
    {versionId componentPrefix : String} {partitionRows : Option ℤ} {physicalCapacities : Option (List ℤ)}
    (request : PublishRequest state rows cols effectiveSlots versionId componentPrefix partitionRows
      physicalCapacities) (validated : Bool) :
    ∃ component : PublishedComponent,
      (∀ rounds : ℕ, cols ≤ rounds → publishComponent rounds validated state rows cols effectiveSlots
        versionId componentPrefix partitionRows physicalCapacities = .ok component) ∧
      component.blocks.map (fun block => (block.logicalRowStart,block.logicalRowStop)) =
        blockRanges (requestSpec rows cols effectiveSlots partitionRows) ∧
      ∀ block ∈ component.blocks,
        block.rowMap.Perm ((List.range' block.logicalRowStart
          (block.logicalRowStop - block.logicalRowStart)).map fun row : ℕ => (row : ℤ)) ∧
        block.physicalRowCapacities =
          block.rowMap.map (fun row => requestedCapacity state physicalCapacities row.toNat) ∧
        ∃ layout : CSSCLayout,
          (∀ rounds : ℕ, cols ≤ rounds → buildCsscLayout rounds
            ((List.range (block.logicalRowStop - block.logicalRowStart)).map fun place =>
              (requestedCapacity state physicalCapacities (block.logicalRowStart + place) : ℤ))
            effectiveSlots = .ok layout) ∧
          block.rowMap = layout.logicalRowOrder.map (fun row : ℕ => ((block.logicalRowStart + row : ℕ) : ℤ)) ∧
          layout.physicalRowLengths = block.physicalRowCapacities ∧
          layout.chunks.length = block.chunks.length ∧
          List.Forall₂ CSSCChunk.Counts layout.chunks block.chunks := by
  obtain ⟨chunksOf,laid,ends⟩ := request.blocks_end
  have positive := request.spec_pos
  refine ⟨_,fun rounds enough => ends rounds validated enough,?_,?_⟩
  · rw [laidComponent,List.map_map]
    exact List.zipIdx_map_fst _ _
  intro block member
  obtain ⟨source,inRanges,rfl⟩ := List.mem_map.mp member
  obtain ⟨⟨first,last⟩,index⟩ := source
  have bounds := blockRanges_bounds (List.fst_mem_of_mem_zipIdx inRanges)
  have here := laid _ inRanges
  have slots : 0 < effectiveSlots := by
    have := request.partition_pos
    have := request.partition_fits
    omega
  have same : sortedRows (requestTable state rows physicalCapacities) (first,first + (last - first)) =
      sortedRows (requestTable state rows physicalCapacities) (first,last) := by
    rw [sortedRows,sortedRows,Nat.add_sub_cancel_left]
  have asked (row : ℕ) (inside : row < last) : (requestTable state rows physicalCapacities).capacity row =
      requestedCapacity state physicalCapacities row := by
    have row : row < rows.toNat := by
      have := bounds.1
      dsimp only [requestSpec] at this
      omega
    rw [requestTable_capacity,if_pos row]
  obtain ⟨layout,built,order,capacities,counts⟩ := buildCsscLayout_block
    (requestTable state rows physicalCapacities) (componentPrefix ++ "-h" ++ sixDigits index) first
    (last - first) effectiveSlots.toNat (bounds.2.trans request.spec_fits) (by omega)
  rw [same] at built order capacities counts
  have matched := counts (chunksOf ((first,last),index)) here
  refine ⟨(sortedRows_perm _ _).map _,?_,layout,?_,?_,capacities,matched.length_eq,matched⟩
  · rw [laidBlock]
    dsimp only
    rw [List.map_map]
    apply List.map_congr_left
    intro row member
    exact asked row ((mem_sortedRows _ _ _).mp member).2
  · intro rounds enough
    have wide : (requestTable state rows physicalCapacities).widest
        (sortedRows (requestTable state rows physicalCapacities) (first,last)) ≤ rounds := by
      refine List.max_le_of_forall_le _ _ fun capacity member => ?_
      obtain ⟨row,_,rfl⟩ := List.mem_map.mp member
      have bound : (requestTable state rows physicalCapacities).capacity row ≤ cols.toNat :=
        request.fits.capacity row
      have colsPos := request.cols_pos
      omega
    have made := built rounds wide
    rw [Int.toNat_of_nonneg slots.le] at made
    rw [← made]
    congr 1
    apply List.map_congr_left
    intro place member
    have inside : place < last - first := List.mem_range.mp member
    rw [asked (first + place) (by omega)]
    rfl
  · rw [laidBlock]
    dsimp only
    rw [← order,List.map_map]
    rfl

theorem smallState_counted : ∃ (component : PublishedComponent) (left right : OutputBlockLayout)
    (layout : CSSCLayout),
    publishComponent 3 false smallState 5 3 4 "v1" "base" (some 3) (some [2,1,3,1,0]) = .ok component ∧
      component.blocks = [left,right] ∧
      (left.logicalRowStart,left.logicalRowStop) = (0,3) ∧
      (right.logicalRowStart,right.logicalRowStop) = (3,5) ∧
      buildCsscLayout 3 [2,1,3] 4 = .ok layout ∧
      layout.chunks.map (fun chunk => (chunk.width,chunk.height,chunk.usedSlots)) = [(1,3,3),(2,2,3)] ∧
      List.Forall₂ CSSCChunk.Counts layout.chunks left.chunks := by
  obtain ⟨component,published,ranges,counted⟩ := counting_model_exact smallState_request false
  have two : component.blocks.length = 2 := by
    have count := congrArg List.length ranges
    rw [List.length_map] at count
    exact count.trans (by decide)
  obtain ⟨left,right,pair⟩ := List.length_eq_two.mp two
  rw [pair] at ranges counted
  have both : [(left.logicalRowStart,left.logicalRowStop),(right.logicalRowStart,right.logicalRowStop)] =
      [(0,3),(3,5)] := ranges.trans (by decide)
  obtain ⟨first,second⟩ := List.cons.inj both
  have start : left.logicalRowStart = 0 := congrArg Prod.fst first
  have stop : left.logicalRowStop = 3 := congrArg Prod.snd first
  obtain ⟨_,_,layout,built,_,_,_,counts⟩ := counted left List.mem_cons_self
  have made : buildCsscLayout 3 [2,1,3] 4 = .ok layout := by
    rw [← built 3 (by decide),start,stop]
    decide
  have shape : (buildCsscLayout 3 [2,1,3] 4).map (fun layout =>
      layout.chunks.map fun chunk => (chunk.width,chunk.height,chunk.usedSlots)) =
      .ok [(1,3,3),(2,2,3)] := by decide
  rw [made] at shape
  exact ⟨component,left,right,layout,published 3 (by decide),pair,first,(List.cons.inj second).1,made,
    Except.ok.inj shape,counts⟩

end DynamicCssc
