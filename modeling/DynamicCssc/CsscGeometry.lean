import DynamicCssc.Cssc
import DynamicCssc.Foundation.Strided

/-! Where a valid block keeps its entries: the rows with a capacity come first in the row map, and
a chunk holds the entries of its rows at a stride of its height. -/
namespace DynamicCssc
open Foundation

section
variable {R : Type} [CommRing R]

def Lane.entry (lane : Lane) : Option (Coordinate × ℤ) :=
  if lane.kind = .actual then lane.coordinate.map fun coordinate => (coordinate,lane.value) else none

def ValueChunk.entries (chunk : ValueChunk) : List (Coordinate × ℤ) := chunk.lanes.filterMap Lane.entry

def OutputBlockLayout.entries (block : OutputBlockLayout) : List (Coordinate × ℤ) :=
  block.chunks.flatMap ValueChunk.entries

theorem decode_eq_blocks (component : PublishedComponent) :
    component.decode = component.blocks.flatMap OutputBlockLayout.entries := by
  simp only [PublishedComponent.decode,PublishedComponent.chunks,List.flatMap_assoc]
  rfl

/-- The entries of one row, weighted by their columns. -/
def rowSum (weight : ℤ → R) (row : ℤ) (entries : List (Coordinate × ℤ)) : R :=
  (entries.map fun entry => if entry.1.row = row then (entry.2 : R) * weight entry.1.col else 0).sum

@[simp] theorem rowSum_append (weight : ℤ → R) (row : ℤ) (left right : List (Coordinate × ℤ)) :
    rowSum weight row (left ++ right) = rowSum weight row left + rowSum weight row right := by
  simp [rowSum]

theorem rowSum_flatMap {α : Type} (weight : ℤ → R) (row : ℤ) (items : List α)
    (entries : α → List (Coordinate × ℤ)) : rowSum weight row (items.flatMap entries) =
      (items.map fun item => rowSum weight row (entries item)).sum := by
  induction items with
  | nil => rfl
  | cons item items ih => rw [List.flatMap_cons,rowSum_append,ih,List.map_cons,List.sum_cons]

/-- The weighted value of a lane. -/
def ValueChunk.product (weight : ℤ → R) (chunk : ValueChunk) (lane : ℕ) : R :=
  ((chunk.values[lane]?).getD 0 : ℤ) * weight ((chunk.columnIndices[lane]?).getD (-1))

private theorem ValueChunk.product_lane (weight : ℤ → R) (chunk : ValueChunk) (index : ℕ) (lane : Lane)
    (found : chunk.lanes[index]? = some lane) :
    chunk.product weight index = (lane.value : R) * weight lane.column := by
  simp [ValueChunk.product,ValueChunk.values,ValueChunk.columnIndices,found]

private theorem rowSum_entries (weight : ℤ → R) (row : ℤ) (chunk : ValueChunk) :
    rowSum weight row chunk.entries = (chunk.lanes.map fun lane =>
      match lane.entry with
      | some entry => if entry.1.row = row then (entry.2 : R) * weight entry.1.col else 0
      | none => 0).sum := by
  rw [rowSum,ValueChunk.entries]
  induction chunk.lanes with
  | nil => rfl
  | cons lane lanes ih =>
    cases present : lane.entry with
    | none => simp [present,ih]
    | some entry => simp [present,ih]

namespace ChunkValid

variable {spec : LayoutSpec} {block : OutputBlockLayout} {chunk : ValueChunk}

theorem shape (valid : ChunkValid spec block chunk) (slot : ℕ) (lane : Lane)
    (found : chunk.lanes[slot]? = some lane) : LaneShape block chunk slot lane :=
  valid.shapes (lane,slot) (List.mk_mem_zipIdx_iff_getElem?.mpr found)

theorem content (valid : ChunkValid spec block chunk) (slot : ℕ) (lane : Lane)
    (found : chunk.lanes[slot]? = some lane) : LaneContent spec lane :=
  valid.contents lane (List.mem_iff_getElem?.mpr ⟨slot,found⟩)

private theorem value_zero (valid : ChunkValid spec block chunk) (slot : ℕ) (lane : Lane)
    (found : chunk.lanes[slot]? = some lane) (idle : lane.kind ≠ .actual) : lane.value = 0 := by
  have content := valid.content slot lane found
  unfold LaneContent at content
  split at content
  · exact absurd ‹_› idle
  · exact content.2.1
  · exact content.2.1
  · exact content.2.1
  · exact content.2.1
  · exact content.elim

theorem active_lane (valid : ChunkValid spec block chunk) (slot : ℕ) (lane : Lane)
    (found : chunk.lanes[slot]? = some lane) (active : lane.kind = .actual) :
    slot < chunk.width * chunk.height ∧ ∃ row, block.rowMap[slot % chunk.height]? = some row ∧
      lane.owner = some row ∧ lane.coordinate = some ⟨row,lane.column⟩ := by
  have content := valid.content slot lane found
  have shape := valid.shape slot lane found
  unfold LaneContent at content
  unfold LaneShape at shape
  split at content
  · rename_i owner _ owned
    split at shape
    · rename_i inside
      rw [valid.rectangle] at inside
      exact ⟨inside,owner,shape.1.symm.trans owned,owned,content.1⟩
    · rw [active] at shape
      cases shape.1
  all_goals simp_all

/-- A lane contributes to a row when it stands at the place of that row in the rectangle. -/
private theorem lane_product (valid : ChunkValid spec block chunk) (distinct : block.rowMap.Nodup)
    (weight : ℤ → R) (place : ℕ) (row : ℤ) (here : block.rowMap[place]? = some row) (slot : ℕ)
    (lane : Lane) (found : chunk.lanes[slot]? = some lane) :
    (if slot < chunk.width * chunk.height then
      if slot % chunk.height = place then chunk.product weight slot else 0 else 0) =
    match lane.entry with
    | some entry => if entry.1.row = row then (entry.2 : R) * weight entry.1.col else 0
    | none => 0 := by
  rw [chunk.product_lane weight slot lane found,Lane.entry]
  by_cases active : lane.kind = .actual
  · obtain ⟨inside,owner,owned,_,coordinate⟩ := valid.active_lane slot lane found active
    have same : slot % chunk.height = place ↔ owner = row := by
      constructor
      · intro equal
        rw [equal,here] at owned
        exact (Option.some.inj owned).symm
      · intro equal
        rw [equal] at owned
        exact (List.getElem?_inj (List.getElem?_eq_some_iff.mp owned).1 distinct).mp
          (owned.trans here.symm)
    simp [active,coordinate,inside,same]
  · rw [valid.value_zero slot lane found active]
    simp [active]

theorem row_sum (valid : ChunkValid spec block chunk) (distinct : block.rowMap.Nodup)
    (weight : ℤ → R) (place : ℕ) (row : ℤ) (here : block.rowMap[place]? = some row) :
    (if place < chunk.height then
      Strided.total (chunk.product weight) chunk.height chunk.width place else 0) =
    rowSum weight row chunk.entries := by
  have tall := valid.height_pos
  have area : chunk.width * chunk.height + (spec.effectiveSlots - chunk.width * chunk.height) =
      chunk.lanes.length := by
    have fits := valid.fits
    rw [valid.rectangle] at fits
    rw [valid.length]
    omega
  rw [rowSum_entries,Strided.sum_map_eq_range _ _ _ (valid.lane_product distinct weight place row here),
    ← area,Finset.sum_range_add]
  have tail : ∑ slot ∈ Finset.range (spec.effectiveSlots - chunk.width * chunk.height),
      (if chunk.width * chunk.height + slot < chunk.width * chunk.height then
        if (chunk.width * chunk.height + slot) % chunk.height = place then
          chunk.product weight (chunk.width * chunk.height + slot) else 0 else 0) = 0 :=
    Finset.sum_eq_zero fun slot _ => if_neg (by omega)
  have inside : ∑ slot ∈ Finset.range (chunk.width * chunk.height),
      (if slot < chunk.width * chunk.height then
        if slot % chunk.height = place then chunk.product weight slot else 0 else 0) =
      ∑ slot ∈ Finset.range (chunk.width * chunk.height),
        if slot % chunk.height = place then chunk.product weight slot else 0 :=
    Finset.sum_congr rfl fun slot member => if_pos (Finset.mem_range.mp member)
  rw [tail,inside,add_zero,Strided.sum_rectangle]
  have columns : ∀ other ∈ Finset.range chunk.height,
      Strided.total (fun slot => if slot % chunk.height = place then chunk.product weight slot else 0)
        chunk.height chunk.width other =
      if place = other then Strided.total (chunk.product weight) chunk.height chunk.width place else 0 := by
    intro other member
    have below := Finset.mem_range.mp member
    have lane (j : ℕ) : (other + j * chunk.height) % chunk.height = other := by
      rw [Nat.add_mul_mod_self_right,Nat.mod_eq_of_lt below]
    simp only [Strided.total,lane]
    split
    · rename_i same
      rw [if_pos same.symm,same]
    · rename_i differ
      rw [if_neg (Ne.symm differ),Finset.sum_const_zero]
  rw [Finset.sum_congr rfl columns,Finset.sum_ite_eq]
  simp only [Finset.mem_range]

theorem chunk_fits (valid : ChunkValid spec block chunk) :
    0 < chunk.width ∧ 0 < chunk.height ∧ chunk.width * chunk.height ≤ spec.effectiveSlots :=
  ⟨valid.width_pos,valid.height_pos,valid.rectangle ▸ valid.fits⟩

end ChunkValid

end
end DynamicCssc
