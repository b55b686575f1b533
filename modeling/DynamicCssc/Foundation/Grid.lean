import Mathlib.Data.List.Basic
import Mathlib.Data.List.Nodup
import Mathlib.Data.List.Induction

/-! Grids of rows, filled one cell at a time. -/
namespace Foundation.Grid

variable {β : Type}

def cell (grid : List (List β)) (place : ℕ × ℕ) : Option β :=
  grid[place.1]?.bind fun row => row[place.2]?

/-- `grid[place[0]][place[1]] = value`. -/
def put (grid : List (List β)) (place : ℕ × ℕ) (value : β) : List (List β) :=
  grid.modify place.1 fun row => row.set place.2 value

def fill (grid : List (List β)) (writes : List ((ℕ × ℕ) × β)) : List (List β) :=
  writes.foldl (fun grid write => put grid write.1 write.2) grid

theorem zipIdx_apart {α : Type} (items : List α) :
    items.zipIdx.Pairwise fun left right => left.2 ≠ right.2 := by
  have indices : (items.zipIdx.map Prod.snd).Nodup := by
    rw [List.zipIdx_map_snd]
    exact List.nodup_range'
  exact List.pairwise_map.mp indices

theorem cell_put (grid : List (List β)) (place other : ℕ × ℕ) (value : β) :
    cell (put grid place value) other =
      if other = place then (cell grid place).map fun _ => value else cell grid other := by
  obtain ⟨row,column⟩ := place
  obtain ⟨row',column'⟩ := other
  simp only [cell,put,List.getElem?_modify,Prod.mk.injEq]
  by_cases rows : row = row'
  · subst rows
    cases grid[row]? with
    | none => simp
    | some cells =>
      by_cases columns : column = column'
      · subst columns
        simp [List.getElem?_set]
        split <;> simp_all
      · simp [columns,Ne.symm columns]
  · simp [rows,Ne.symm rows]

private theorem fill_append (grid : List (List β)) (writes : List ((ℕ × ℕ) × β)) (write : (ℕ × ℕ) × β) :
    fill grid (writes ++ [write]) = put (fill grid writes) write.1 write.2 := by
  simp [fill]

theorem cell_fill_absent (grid : List (List β)) (writes : List ((ℕ × ℕ) × β)) (place : ℕ × ℕ)
    (absent : place ∉ writes.map Prod.fst) : cell (fill grid writes) place = cell grid place := by
  induction writes using List.reverseRecOn with
  | nil => rfl
  | append_singleton writes write ih =>
    simp only [List.map_append,List.map_cons,List.map_nil,List.mem_append,List.mem_singleton,
      not_or] at absent
    rw [fill_append,cell_put,if_neg absent.2,ih absent.1]

/-- Writes to distinct places are all there in the end. -/
theorem cell_fill_written (grid : List (List β)) (writes : List ((ℕ × ℕ) × β))
    (distinct : (writes.map Prod.fst).Nodup) (place : ℕ × ℕ) (value : β)
    (written : (place,value) ∈ writes) (inside : (cell grid place).isSome) :
    cell (fill grid writes) place = some value := by
  induction writes using List.reverseRecOn with
  | nil => simp at written
  | append_singleton writes write ih =>
    rw [List.map_append,List.nodup_append] at distinct
    rw [fill_append,cell_put]
    rcases List.mem_append.mp written with early | late
    · have apart : place ≠ write.1 := distinct.2.2 place (List.mem_map.mpr ⟨_,early,rfl⟩) _ (by simp)
      rw [if_neg apart,ih distinct.1 early]
    · rw [← List.mem_singleton.mp late]
      have unwritten : place ∉ writes.map Prod.fst := by
        intro member
        exact distinct.2.2 place member place (by simp [← List.mem_singleton.mp late]) rfl
      rw [cell_fill_absent grid writes place unwritten]
      obtain ⟨old,here⟩ := Option.isSome_iff_exists.mp inside
      simp [here]

theorem mem_fill (grid : List (List β)) (writes : List ((ℕ × ℕ) × β)) (row : List β)
    (member : row ∈ fill grid writes) (value : β) (inside : value ∈ row) :
    (∃ start ∈ grid, value ∈ start) ∨ value ∈ writes.map Prod.snd := by
  induction writes using List.reverseRecOn generalizing row with
  | nil => exact .inl ⟨row,member,inside⟩
  | append_singleton writes write ih =>
    rw [fill_append,put] at member
    obtain ⟨index,found⟩ := List.mem_iff_getElem?.mp member
    rw [List.getElem?_modify] at found
    obtain ⟨line,there,changed⟩ := Option.map_eq_some_iff.mp found
    have old : line ∈ fill grid writes := List.mem_iff_getElem?.mpr ⟨index,there⟩
    split at changed
    · subst changed
      rcases List.mem_or_eq_of_mem_set inside with kept | same
      · exact (ih line old kept).imp_right fun written => by simp [written]
      · exact .inr (by simp [same])
    · exact (ih line old (changed ▸ inside)).imp_right fun written => by simp [written]

@[simp] theorem fill_length (grid : List (List β)) (writes : List ((ℕ × ℕ) × β)) :
    (fill grid writes).length = grid.length := by
  induction writes using List.reverseRecOn with
  | nil => rfl
  | append_singleton writes write ih => rw [fill_append,put,List.length_modify,ih]

theorem fill_row_length (width : ℕ) (grid : List (List β)) (rows : ∀ row ∈ grid, row.length = width)
    (writes : List ((ℕ × ℕ) × β)) : ∀ row ∈ fill grid writes, row.length = width := by
  induction writes using List.reverseRecOn with
  | nil => exact rows
  | append_singleton writes write ih =>
    intro row member
    rw [fill_append,put] at member
    obtain ⟨index,bound,rfl⟩ := List.mem_iff_getElem.mp member
    rw [List.length_modify] at bound
    rw [List.getElem_modify]
    split
    · rw [List.length_set]
      exact ih _ (List.getElem_mem bound)
    · exact ih _ (List.getElem_mem bound)

end Foundation.Grid
