import Mathlib.Data.List.Sort
import Mathlib.Order.Lattice
import Mathlib.Tactic

/-! `sorted` with a key, as a stable insertion sort. -/
namespace Foundation.Sorting

variable {α κ : Type} [LinearOrder κ]

/-- `sorted(items, key=key)`. -/
def sortedBy (key : α → κ) (items : List α) : List α :=
  items.insertionSort (fun left right => key left ≤ key right)

instance totalByKey (key : α → κ) : Std.Total (fun left right : α => key left ≤ key right) :=
  ⟨fun left right => le_total (key left) (key right)⟩

instance transByKey (key : α → κ) : IsTrans α (fun left right => key left ≤ key right) :=
  ⟨fun _ _ _ => le_trans⟩

theorem sortedBy_perm (key : α → κ) (items : List α) : (sortedBy key items).Perm items :=
  List.perm_insertionSort _ _

theorem sortedBy_ordered (key : α → κ) (items : List α) :
    (sortedBy key items).Pairwise (fun left right => key left ≤ key right) :=
  List.pairwise_insertionSort _ _

@[simp] theorem mem_sortedBy (key : α → κ) (items : List α) (item : α) :
    item ∈ sortedBy key items ↔ item ∈ items :=
  (sortedBy_perm key items).mem_iff

@[simp] theorem sortedBy_length (key : α → κ) (items : List α) :
    (sortedBy key items).length = items.length :=
  (sortedBy_perm key items).length_eq

theorem eq_of_perm_of_ordered (key : α → κ) {left right : List α} (perm : left.Perm right)
    (distinct : (left.map key).Nodup)
    (hl : left.Pairwise (fun a b => key a ≤ key b)) (hr : right.Pairwise (fun a b => key a ≤ key b)) :
    left = right := by
  apply List.Perm.eq_of_pairwise _ hl hr perm
  intro a b ha hb below above
  exact List.inj_on_of_nodup_map distinct ha (perm.mem_iff.mpr hb) (le_antisymm below above)

theorem sortedBy_eq_of_perm (key : α → κ) {left right : List α} (perm : left.Perm right)
    (distinct : (left.map key).Nodup) : sortedBy key left = sortedBy key right := by
  have total : (sortedBy key left).Perm (sortedBy key right) :=
    (sortedBy_perm key left).trans (perm.trans (sortedBy_perm key right).symm)
  apply eq_of_perm_of_ordered key total _ (sortedBy_ordered key left) (sortedBy_ordered key right)
  exact ((sortedBy_perm key left).map key).nodup_iff.mpr distinct

theorem sortedBy_eq_self (key : α → κ) {items : List α}
    (ordered : items.Pairwise (fun left right => key left ≤ key right)) :
    sortedBy key items = items :=
  List.Pairwise.insertionSort_eq ordered

theorem sortedBy_nodup (key : α → κ) {items : List α} (distinct : items.Nodup) :
    (sortedBy key items).Nodup :=
  (sortedBy_perm key items).nodup_iff.mpr distinct

theorem sortedBy_map {β : Type} (key : β → κ) (image : α → β) (items : List α) :
    sortedBy key (items.map image) = (sortedBy (fun item => key (image item)) items).map image :=
  (List.map_insertionSort (r := fun left right => key (image left) ≤ key (image right))
    (s := fun left right => key left ≤ key right) image items fun _ _ _ _ => Iff.rfl).symm

/-- Where a property only turns false along a list, its count is the place where it does. -/
theorem lt_countP_iff (p : α → Bool) (items : List α)
    (ordered : items.Pairwise fun left right => p right = true → p left = true) (place : ℕ) (item : α)
    (found : items[place]? = some item) : place < items.countP p ↔ p item = true := by
  induction items generalizing place with
  | nil => simp at found
  | cons head items ih =>
    rw [List.pairwise_cons] at ordered
    by_cases holds : p head = true
    · rw [List.countP_cons_of_pos holds]
      cases place with
      | zero =>
        rw [List.getElem?_cons_zero,Option.some.injEq] at found
        simp [← found,holds]
      | succ place =>
        rw [List.getElem?_cons_succ] at found
        rw [← ih ordered.2 place found]
        omega
    · have none : (head :: items).countP p = 0 := by
        rw [List.countP_eq_zero]
        intro other member
        rcases List.mem_cons.mp member with rfl | later
        · exact holds
        · exact fun back => holds (ordered.1 other later back)
      have fails : ¬p item = true := by
        rcases List.mem_cons.mp (List.mem_of_getElem? found) with same | later
        · exact same ▸ holds
        · exact fun back => holds (ordered.1 item later back)
      simp [none,fails]

/-- `sorted(set(items))`. -/
def sortedSet [DecidableEq α] (key : α → κ) (items : List α) : List α := sortedBy key items.dedup

@[simp] theorem mem_sortedSet [DecidableEq α] (key : α → κ) (items : List α) (item : α) :
    item ∈ sortedSet key items ↔ item ∈ items := by
  simp [sortedSet]

theorem sortedSet_nodup [DecidableEq α] (key : α → κ) (items : List α) :
    (sortedSet key items).Nodup :=
  sortedBy_nodup key (List.nodup_dedup items)

theorem sortedSet_congr [DecidableEq α] (key : α → κ) (injective : Function.Injective key)
    {left right : List α} (same : ∀ item, item ∈ left ↔ item ∈ right) :
    sortedSet key left = sortedSet key right := by
  apply sortedBy_eq_of_perm
  · rw [List.perm_ext_iff_of_nodup (List.nodup_dedup _) (List.nodup_dedup _)]
    simpa using same
  · exact (List.nodup_dedup left).map injective

end Foundation.Sorting
