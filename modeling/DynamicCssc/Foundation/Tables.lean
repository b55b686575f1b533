import DynamicCssc.Foundation.Sorting
import Std.Data.ExtTreeMap

/-! Maps kept in key order, and tables of equally long rows built by writing single
cells. A row comes into being, all zero, at the first cell written into it. -/
namespace Foundation.Tables
open Std

variable {κ β : Type} [LinearOrder κ]

scoped instance lawfulCompare : LawfulEqCmp (compare : κ → κ → Ordering) := ⟨fun same => Std.compare_eq_iff_eq.mp same⟩

private theorem keys_eq_sortedSet (table : ExtTreeMap κ β compare) (keys : List κ)
    (same : ∀ key, key ∈ table ↔ key ∈ keys) : table.keys = Sorting.sortedSet id keys := by
  have increasing := ExtTreeMap.ordered_keys (t := table)
  have ordered : table.keys.Pairwise (fun left right => id left ≤ id right) :=
    increasing.imp fun below => (compare_lt_iff_lt.mp below).le
  have distinct : table.keys.Nodup := increasing.imp fun below => (compare_lt_iff_lt.mp below).ne
  have perm : table.keys.Perm (Sorting.sortedSet id keys) := by
    rw [List.perm_ext_iff_of_nodup distinct (Sorting.sortedSet_nodup id keys)]
    intro key
    rw [ExtTreeMap.mem_keys,Sorting.mem_sortedSet]
    exact same key
  exact Sorting.eq_of_perm_of_ordered id perm (by simpa using distinct) ordered
    (Sorting.sortedBy_ordered id _)

theorem toList_eq_map (table : ExtTreeMap κ β compare) (keys : List κ) (f : κ → β)
    (entries : ∀ key, table[key]? = if key ∈ keys then some (f key) else none) :
    table.toList = (Sorting.sortedSet id keys).map fun key => (key,f key) := by
  have members : ∀ key, key ∈ table ↔ key ∈ keys := by
    intro key
    rw [ExtTreeMap.mem_iff_isSome_getElem?,entries]
    split <;> simp_all
  rw [← keys_eq_sortedSet table keys members,← ExtTreeMap.map_fst_toList_eq_keys,List.map_map]
  symm
  conv_rhs => rw [← List.map_id table.toList]
  apply List.map_congr_left
  rintro ⟨key,value⟩ member
  have found := ExtTreeMap.mem_toList_iff_getElem?_eq_some.mp member
  rw [entries] at found
  split at found
  · simpa using found
  · contradiction

abbrev Table (κ : Type) [LinearOrder κ] := ExtTreeMap κ (List ℤ) compare

/-- `table.setdefault(row, [0] * width)[column] = value`. -/
def write (width : ℕ) (table : Table κ) (cell : (κ × ℕ) × ℤ) : Table κ :=
  table.insert cell.1.1
    ((table[cell.1.1]?.getD (List.replicate width 0)).set cell.1.2 cell.2)

/-- The row that holds `f` on the given cells and zero elsewhere. -/
def rowOf (width : ℕ) (cells : List (κ × ℕ)) (f : κ × ℕ → ℤ) (row : κ) : List ℤ :=
  (List.range width).map fun column => if (row,column) ∈ cells then f (row,column) else 0

theorem rowOf_entry (width : ℕ) (cells : List (κ × ℕ)) (f : κ × ℕ → ℤ) (row : κ) (column : ℕ)
    (inside : column < width) : (rowOf width cells f row)[column]? =
      some (if (row,column) ∈ cells then f (row,column) else 0) := by
  rw [rowOf,List.getElem?_map,List.getElem?_range inside]
  rfl

private theorem rowOf_absent (width : ℕ) (cells : List (κ × ℕ)) (f : κ × ℕ → ℤ) (row : κ)
    (absent : row ∉ cells.map Prod.fst) : rowOf width cells f row = List.replicate width 0 := by
  have empty : ∀ column, (row,column) ∉ cells := fun column member =>
    absent (List.mem_map.mpr ⟨_,member,rfl⟩)
  simp [rowOf,empty]

/-- Writing the graph of a function builds exactly the rows its cells touch. -/
theorem write_graph (width : ℕ) (cells : List (κ × ℕ)) (f : κ × ℕ → ℤ) (row : κ) :
    ((cells.map fun cell => (cell,f cell)).foldl (write width) ∅)[row]? =
      if row ∈ cells.map Prod.fst then some (rowOf width cells f row) else none := by
  induction cells using List.reverseRecOn generalizing row with
  | nil => simp
  | append_singleton cells cell ih =>
    obtain ⟨here,column⟩ := cell
    rw [List.map_append,List.foldl_append]
    simp only [List.map_cons,List.map_nil,List.foldl_cons,List.foldl_nil,write]
    have before : ((cells.map fun cell => (cell,f cell)).foldl (write width) ∅)[here]?.getD
        (List.replicate width 0) = rowOf width cells f here := by
      rw [ih here]
      split
      · rfl
      · rename_i absent
        exact (rowOf_absent width cells f here absent).symm
    rw [before,ExtTreeMap.getElem?_insert]
    by_cases same : here = row
    · subst same
      have updated : (rowOf width cells f here).set column (f (here,column)) =
          rowOf width (cells ++ [(here,column)]) f here := by
        apply List.ext_getElem (by simp [rowOf])
        intro i left right
        simp only [List.getElem_set,rowOf,List.getElem_map,List.getElem_range,List.mem_append,
          List.mem_singleton,Prod.mk.injEq,true_and]
        by_cases this : column = i
        · simp [this]
        · simp [this,Ne.symm this]
      rw [updated]
      simp
    · have apart : compare here row ≠ .eq := fun equal => same (Std.compare_eq_iff_eq.mp equal)
      have unchanged : rowOf width (cells ++ [(here,column)]) f row = rowOf width cells f row := by
        simp [rowOf,Ne.symm same]
      have members : row ∈ (cells ++ [(here,column)]).map Prod.fst ↔ row ∈ cells.map Prod.fst := by
        simp [Ne.symm same]
      rw [if_neg apart,ih row,unchanged]
      simp only [members]

end Foundation.Tables
