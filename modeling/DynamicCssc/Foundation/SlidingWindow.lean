import Mathlib.Data.List.Basic
import Mathlib.Tactic

/-! The last items of a stream: a first-in first-out window of a fixed width. -/
namespace Foundation.SlidingWindow

variable {α β : Type}

/-- The last `width` items. -/
def recent (width : ℕ) (items : List α) : List α := items.drop (items.length - width)

theorem recent_length (width : ℕ) (items : List α) :
    (recent width items).length = min items.length width := by
  rw [recent,List.length_drop]
  omega

@[simp] theorem recent_nil (width : ℕ) : recent width ([] : List α) = [] := by
  simp [recent]

theorem recent_append_short (width : ℕ) (items : List α) (next : α) (short : items.length < width) :
    recent width (items ++ [next]) = recent width items ++ [next] := by
  have none : items.length - width = 0 := by omega
  have still : (items ++ [next]).length - width = 0 := by
    rw [List.length_append,List.length_singleton]
    omega
  rw [recent,recent,none,still,List.drop_zero,List.drop_zero]

theorem recent_append_full (width : ℕ) (items : List α) (next : α) (positive : 0 < width)
    (full : width ≤ items.length) : ∃ first rest, recent width items = first :: rest ∧
      recent width (items ++ [next]) = rest ++ [next] := by
  have inside : items.length - width < items.length := by omega
  refine ⟨items[items.length - width],items.drop (items.length - width + 1),?_,?_⟩
  · rw [recent,List.drop_eq_getElem_cons inside]
  · have length : (items ++ [next]).length - width = items.length - width + 1 := by
      rw [List.length_append,List.length_singleton]
      omega
    rw [recent,length,List.drop_append_of_le_length (by omega)]

end Foundation.SlidingWindow
