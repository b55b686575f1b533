import Mathlib.Algebra.BigOperators.Group.Finset.Basic
import Mathlib.Algebra.BigOperators.Intervals
import Mathlib.Data.List.Induction
import Mathlib.Tactic

/-! Sums of the lanes of a row at a fixed stride, built up by rotations. A rotation wraps around
at the end of the row, so a partial sum is right only on the lanes whose terms all lie inside. -/
namespace Foundation.Strided

variable {R : Type} [AddCommMonoid R]

/-- `f i + f (i + stride) + ...`, with so many terms. -/
def total (f : ℕ → R) (stride terms lane : ℕ) : R :=
  ∑ j ∈ Finset.range terms, f (lane + j * stride)

@[simp] theorem total_one (f : ℕ → R) (stride lane : ℕ) : total f stride 1 lane = f lane := by
  simp [total]

theorem total_add (f : ℕ → R) (stride first second lane : ℕ) :
    total f stride (first + second) lane =
      total f stride first lane + total f stride second (lane + first * stride) := by
  rw [total,Finset.sum_range_add]
  congr 1
  apply Finset.sum_congr rfl
  intro j _
  congr 1
  ring

theorem total_congr (f g : ℕ → R) (stride terms lane : ℕ)
    (same : ∀ j < terms, f (lane + j * stride) = g (lane + j * stride)) :
    total f stride terms lane = total g stride terms lane :=
  Finset.sum_congr rfl fun j member => same j (Finset.mem_range.mp member)

/-- A rectangle stored column by column, summed row by row. -/
theorem sum_rectangle (f : ℕ → R) (width height : ℕ) :
    ∑ lane ∈ Finset.range (width * height), f lane = ∑ row ∈ Finset.range height, total f height width row := by
  induction width with
  | zero => simp [total]
  | succ width ih =>
    rw [Nat.succ_mul,Finset.sum_range_add,ih,← Finset.sum_add_distrib]
    apply Finset.sum_congr rfl
    intro row _
    rw [total_add,total_one,add_comm row]

theorem sum_map_eq_range {α : Type} (g : α → R) (items : List α) (f : ℕ → R)
    (same : ∀ index item, items[index]? = some item → f index = g item) :
    (items.map g).sum = ∑ index ∈ Finset.range items.length, f index := by
  induction items using List.reverseRecOn with
  | nil => simp
  | append_singleton items item ih =>
    have here := same items.length item (by simp)
    rw [List.map_append,List.sum_append,List.length_append,List.length_singleton,Finset.sum_range_succ,
      ih fun index other found => same index other (by
        rw [List.getElem?_append_left (List.getElem?_eq_some_iff.mp found).1]
        exact found)]
    simp [here]

/-- The row `g` holds the sums wherever no term lies beyond the row's end. -/
def Partial (width : ℕ) (f : ℕ → R) (stride terms : ℕ) (g : ℕ → R) : Prop :=
  ∀ lane, lane + (terms - 1) * stride < width → g lane = total f stride terms lane

theorem Partial.single (width : ℕ) (f g : ℕ → R) (stride : ℕ) (same : ∀ lane < width, g lane = f lane) :
    Partial width f stride 1 g := by
  intro lane inside
  rw [total_one]
  exact same lane (by simpa using inside)

theorem Partial.append {width : ℕ} {f g h rotated sum : ℕ → R} {stride first second : ℕ}
    (left : Partial width f stride first g) (right : Partial width f stride second h)
    (positive : 0 < second) (nonempty : 0 < first)
    (rotates : ∀ lane, lane + first * stride < width → rotated lane = h (lane + first * stride))
    (adds : ∀ lane < width, sum lane = g lane + rotated lane) :
    Partial width f stride (first + second) sum := by
  intro lane inside
  have reach : (first + second - 1) * stride = first * stride + (second - 1) * stride := by
    rw [← Nat.add_mul]
    congr 1
    omega
  have before : (first - 1) * stride ≤ first * stride := Nat.mul_le_mul_right _ (by omega)
  rw [reach] at inside
  rw [total_add,adds lane (by omega),rotates lane (by omega),left lane (by omega),
    right (lane + first * stride) (by omega)]

end Foundation.Strided
