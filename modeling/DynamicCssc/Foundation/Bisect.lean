import Mathlib.Data.List.Basic
import Mathlib.Data.List.Pairwise
import Mathlib.Order.Basic
import Mathlib.Tactic.Linarith

/-! Binary search in a list, and lists that are strictly increasing under a key. In such a list the
search finds the item of a key, and removal and insertion at the place found keep the order. -/
namespace Foundation.Bisect

variable {α κ : Type}

/-- The loop of `bisect_left`; `below` tells whether an item lies left of the wanted place. -/
def search (below : α → Bool) (items : List α) : ℕ → ℕ → ℕ → ℕ
  | 0, low, _ => low
  | rounds + 1, low, high =>
    if low < high then
      let middle := (low + high) / 2
      match items[middle]? with
      | none => low
      | some item =>
        if below item then search below items rounds (middle + 1) high
        else search below items rounds low middle
    else low

/-- `bisect_left`. Every round halves the interval, so the length bounds the rounds. -/
def left (below : α → Bool) (items : List α) : ℕ := search below items items.length 0 items.length

private theorem search_split (below : α → Bool) (front back : List α) (rounds low high : ℕ)
    (inFront : ∀ item ∈ front, below item = true) (inBack : ∀ item ∈ back, below item = false)
    (lower : low ≤ front.length) (upper : front.length ≤ high)
    (inside : high ≤ (front ++ back).length) (enough : high - low ≤ rounds) :
    search below (front ++ back) rounds low high = front.length := by
  induction rounds generalizing low high with
  | zero =>
    rw [search]
    omega
  | succ rounds ih =>
    rw [search]
    split
    case isFalse done => omega
    case isTrue going =>
      have place : (low + high) / 2 < (front ++ back).length := by omega
      simp only [List.getElem?_eq_getElem place]
      by_cases first : (low + high) / 2 < front.length
      · rw [List.getElem_append_left first,if_pos (inFront _ (List.getElem_mem first))]
        exact ih _ _ (by omega) upper inside (by omega)
      · have second := inBack _ (List.getElem_mem (l := back) (n := (low + high) / 2 - front.length)
          (by rw [List.length_append] at place; omega))
        rw [List.getElem_append_right (by omega),second]
        exact ih _ _ lower (by omega) (by omega) (by omega)

private theorem left_split (below : α → Bool) (front back : List α)
    (inFront : ∀ item ∈ front, below item = true) (inBack : ∀ item ∈ back, below item = false) :
    left below (front ++ back) = front.length := by
  refine search_split below front back _ _ _ inFront inBack (Nat.zero_le _) ?_ le_rfl (by omega)
  rw [List.length_append]
  omega

private theorem insertIdx_between (front back : List α) (item : α) :
    (front ++ back).insertIdx front.length item = front ++ item :: back := by
  induction front with
  | nil => rfl
  | cons first front ih => simp [ih]

section Ordered

variable [LinearOrder κ] (key : α → κ)

def Ordered (items : List α) : Prop := items.Pairwise fun first second => key first < key second

theorem Ordered.split {items : List α} (ordered : Ordered key items) (wanted : κ) :
    ∃ front back, items = front ++ back ∧ (∀ item ∈ front, key item < wanted) ∧
      (∀ item ∈ back, ¬key item < wanted) ∧
      left (fun item => decide (key item < wanted)) items = front.length := by
  suffices parts : ∃ front back, items = front ++ back ∧ (∀ item ∈ front, key item < wanted) ∧
      ∀ item ∈ back, ¬key item < wanted by
    obtain ⟨front,back,rfl,inFront,inBack⟩ := parts
    refine ⟨front,back,rfl,inFront,inBack,left_split _ front back ?_ ?_⟩
    · intro item member
      exact decide_eq_true (inFront item member)
    · intro item member
      exact decide_eq_false (inBack item member)
  induction items with
  | nil => exact ⟨[],[],rfl,by simp,by simp⟩
  | cons first items ih =>
    obtain ⟨rest,ordered⟩ := List.pairwise_cons.mp ordered
    by_cases below : key first < wanted
    · obtain ⟨front,back,rfl,inFront,inBack⟩ := ih ordered
      refine ⟨first :: front,back,rfl,?_,inBack⟩
      intro item member
      obtain rfl | member := List.mem_cons.mp member
      · exact below
      · exact inFront item member
    · refine ⟨[],first :: items,rfl,by simp,?_⟩
      intro item member
      obtain rfl | member := List.mem_cons.mp member
      · exact below
      · exact fun less => below ((rest item member).trans less)

theorem Ordered.inj {items : List α} (ordered : Ordered key items) {first second : α}
    (inFirst : first ∈ items) (inSecond : second ∈ items) (same : key first = key second) :
    first = second := by
  by_contra different
  have apart : items.Pairwise fun first second => key first ≠ key second :=
    ordered.imp fun less => less.ne
  obtain ⟨front,back,rfl⟩ := List.append_of_mem inFirst
  obtain ⟨_,inBack,across⟩ := List.pairwise_append.mp apart
  obtain member | member := List.mem_append.mp inSecond
  · exact across second member first (by simp) same.symm
  · obtain rfl | member := List.mem_cons.mp member
    · exact different rfl
    · exact (List.pairwise_cons.mp inBack).1 second member same

/-- The search finds the item of a key, and removing what it found removes that item only. -/
theorem Ordered.erase {items : List α} (ordered : Ordered key items) {item : α} (member : item ∈ items) :
    items[left (fun other => decide (key other < key item)) items]? = some item ∧
      Ordered key (items.eraseIdx (left (fun other => decide (key other < key item)) items)) ∧
      ∀ other, other ∈ items.eraseIdx (left (fun other => decide (key other < key item)) items) ↔
        other ∈ items ∧ key other ≠ key item := by
  obtain ⟨front,back,rfl,inFront,inBack,place⟩ := ordered.split key (key item)
  rw [place]
  have inBackPart : item ∈ back := by
    obtain below | here := List.mem_append.mp member
    · exact absurd (inFront item below) (lt_irrefl _)
    · exact here
  obtain ⟨orderedFront,orderedBack,across⟩ := List.pairwise_append.mp ordered
  match back,inBackPart,inBack,orderedBack,across with
  | first :: back,inBackPart,inBack,orderedBack,across =>
    obtain ⟨rest,orderedBack⟩ := List.pairwise_cons.mp orderedBack
    have same : first = item := by
      obtain here | later := List.mem_cons.mp inBackPart
      · exact here.symm
      · exact absurd (rest item later) (inBack first (by simp))
    subst same
    have erased : (front ++ first :: back).eraseIdx front.length = front ++ back := by
      rw [List.eraseIdx_append_of_length_le le_rfl,Nat.sub_self]
      rfl
    refine ⟨by simp,?_,?_⟩
    · rw [erased]
      exact List.pairwise_append.mpr ⟨orderedFront,orderedBack,fun one inFront other inBack =>
        across one inFront other (by simp [inBack])⟩
    · intro other
      rw [erased]
      constructor
      · intro inside
        obtain inside | inside := List.mem_append.mp inside
        · exact ⟨by simp [inside],(inFront other inside).ne⟩
        · exact ⟨by simp [inside],(rest other inside).ne'⟩
      · intro ⟨inside,different⟩
        obtain inside | inside := List.mem_append.mp inside
        · simp [inside]
        · obtain rfl | inside := List.mem_cons.mp inside
          · exact absurd rfl different
          · simp [inside]

/-- Inserting an item of a new key where the search points keeps the order. -/
theorem Ordered.insert {items : List α} (ordered : Ordered key items) {item : α}
    (fresh : ∀ other ∈ items, key other ≠ key item) :
    Ordered key (items.insertIdx (left (fun other => decide (key other < key item)) items) item) ∧
      ∀ other, other ∈ items.insertIdx (left (fun other => decide (key other < key item)) items) item ↔
        other = item ∨ other ∈ items := by
  obtain ⟨front,back,rfl,inFront,inBack,place⟩ := ordered.split key (key item)
  rw [place]
  obtain ⟨orderedFront,orderedBack,across⟩ := List.pairwise_append.mp ordered
  rw [insertIdx_between]
  refine ⟨?_,fun other => by simp only [List.mem_append,List.mem_cons]; tauto⟩
  refine List.pairwise_append.mpr ⟨orderedFront,List.pairwise_cons.mpr ⟨?_,orderedBack⟩,?_⟩
  · intro other member
    exact lt_of_le_of_ne (not_lt.mp (inBack other member)) (fresh other (by simp [member])).symm
  · intro one member other inside
    obtain rfl | inside := List.mem_cons.mp inside
    · exact inFront one member
    · exact across one member other inside

theorem Ordered.pairwise_iff {items : List α} (ordered : Ordered key items) (relation : α → α → Prop) :
    items.Pairwise relation ↔
      ∀ first ∈ items, ∀ second ∈ items, key first < key second → relation first second := by
  constructor
  · intro pairwise first inFirst second inSecond less
    obtain ⟨front,back,rfl⟩ := List.append_of_mem inFirst
    obtain ⟨_,behind,_⟩ := List.pairwise_append.mp pairwise
    obtain ⟨_,_,across⟩ := List.pairwise_append.mp ordered
    obtain member | member := List.mem_append.mp inSecond
    · exact absurd less (across second member first (by simp)).asymm
    · obtain rfl | member := List.mem_cons.mp member
      · exact absurd less (lt_irrefl _)
      · exact (List.pairwise_cons.mp behind).1 second member
  · intro related
    exact ordered.imp_of_mem fun inFirst inSecond less => related _ inFirst _ inSecond less

end Ordered

end Foundation.Bisect
