import Mathlib

/-! Sets of rows as unions of disjoint intervals. A set is such a union of `limit` intervals exactly
when it has that many first rows of runs, so that a search may count runs instead of intervals. -/
namespace Foundation.Intervals

/-- The rows from `start` on and before `stop`. -/
structure Interval where
  start : ℕ
  stop : ℕ
  proper : start < stop

def Interval.Apart (left right : Interval) : Prop := left.stop ≤ right.start ∨ right.stop ≤ left.start

/-- The union of at most `limit` disjoint intervals. -/
def UnionOfAtMost (limit : ℕ) (rows : Finset ℕ) : Prop :=
  ∃ intervals : List Interval, intervals.length ≤ limit ∧ intervals.Pairwise Interval.Apart ∧
    ∀ row, row ∈ rows ↔ ∃ interval ∈ intervals, interval.start ≤ row ∧ row < interval.stop

def starts (rows : Finset ℕ) : Finset ℕ := rows.filter fun row => row = 0 ∨ row - 1 ∉ rows

@[simp] theorem mem_starts (rows : Finset ℕ) (row : ℕ) :
    row ∈ starts rows ↔ row ∈ rows ∧ (row = 0 ∨ row - 1 ∉ rows) := by
  rw [starts,Finset.mem_filter]

def before (rows : Finset ℕ) (bound : ℕ) : Finset ℕ := rows.filter (· < bound)

@[simp] theorem mem_before (rows : Finset ℕ) (bound row : ℕ) :
    row ∈ before rows bound ↔ row ∈ rows ∧ row < bound := by
  rw [before,Finset.mem_filter]

private theorem before_of_below {rows : Finset ℕ} {bound : ℕ} (below : ∀ row ∈ rows, row < bound) :
    before rows bound = rows :=
  Finset.filter_true_of_mem below

theorem before_mono (rows : Finset ℕ) {bound later : ℕ} (ordered : bound ≤ later) :
    before rows bound ⊆ before rows later := by
  intro row member
  rw [mem_before] at member ⊢
  exact ⟨member.1,by omega⟩

theorem starts_before (rows : Finset ℕ) (bound : ℕ) :
    starts (before rows bound) = before (starts rows) bound := by
  ext row
  simp only [mem_starts,mem_before]
  constructor
  · intro ⟨⟨member,below⟩,first⟩
    refine ⟨⟨member,first.imp_right ?_⟩,below⟩
    exact fun absent back => absent ⟨back,by omega⟩
  · intro ⟨⟨member,first⟩,below⟩
    exact ⟨⟨member,below⟩,first.imp_right fun absent back => absent back.1⟩

theorem run_start (rows : Finset ℕ) (row : ℕ) (member : row ∈ rows) :
    ∃ first ∈ starts rows, first ≤ row ∧ ∀ between, first ≤ between → between ≤ row → between ∈ rows := by
  induction row with
  | zero =>
    refine ⟨0,by simp [member],le_rfl,?_⟩
    intro between _ low
    have zero : between = 0 := by omega
    exact zero ▸ member
  | succ row ih =>
    by_cases previous : row ∈ rows
    · obtain ⟨first,found,low,whole⟩ := ih previous
      refine ⟨first,found,by omega,?_⟩
      intro between above below
      rcases Nat.lt_or_eq_of_le below with inner | last
      · exact whole between above (by omega)
      · exact last ▸ member
    · refine ⟨row + 1,by simp [member,previous],le_rfl,?_⟩
      intro between above below
      have here : between = row + 1 := by omega
      exact here ▸ member

theorem starts_insert (rows : Finset ℕ) (row : ℕ) :
    (starts (insert row rows)).card ≤ (starts rows).card + 1 := by
  have inside : starts (insert row rows) ⊆ insert row (starts rows) := by
    intro first member
    simp only [mem_starts,Finset.mem_insert] at member ⊢
    tauto
  exact (Finset.card_le_card inside).trans (Finset.card_insert_le _ _)

theorem starts_continue (rows : Finset ℕ) (last row : ℕ) (member : last ∈ rows) :
    (starts (rows ∪ Finset.Ioc last row)).card ≤ (starts rows).card := by
  apply Finset.card_le_card
  intro first found
  simp only [mem_starts,Finset.mem_union,Finset.mem_Ioc,not_or] at found ⊢
  obtain ⟨old | new,opens⟩ := found
  · exact ⟨old,opens.imp_right And.left⟩
  · rcases opens with zero | ⟨absent,outside⟩
    · omega
    · rcases Nat.lt_or_eq_of_le (Nat.le_sub_one_of_lt new.1) with inner | here
      · omega
      · exact absurd (here ▸ member) absent

private theorem starts_le_of_union {limit : ℕ} {rows : Finset ℕ} (union : UnionOfAtMost limit rows) :
    (starts rows).card ≤ limit := by
  obtain ⟨intervals,few,_,members⟩ := union
  have named : starts rows ⊆ (intervals.map Interval.start).toFinset := by
    intro first found
    rw [mem_starts] at found
    obtain ⟨interval,listed,above,below⟩ := (members first).mp found.1
    rw [List.mem_toFinset,List.mem_map]
    refine ⟨interval,listed,?_⟩
    by_contra later
    have previous : first - 1 ∈ rows := (members _).mpr ⟨interval,listed,by omega,by omega⟩
    rcases found.2 with zero | absent
    · omega
    · exact absent previous
  calc (starts rows).card ≤ (intervals.map Interval.start).toFinset.card := Finset.card_le_card named
    _ ≤ (intervals.map Interval.start).length := List.toFinset_card_le _
    _ ≤ limit := by simpa using few

/-- The runs before a bound, as intervals; the last run may still be open at the bound. -/
structure Runs (rows : Finset ℕ) (bound : ℕ) (intervals : List Interval) : Prop where
  count : intervals.length = (starts (before rows bound)).card
  apart : intervals.Pairwise Interval.Apart
  ended : ∀ interval ∈ intervals, interval.stop ≤ bound
  members : ∀ row, row ∈ before rows bound ↔
    ∃ interval ∈ intervals, interval.start ≤ row ∧ row < interval.stop
  opened : ∀ last, last + 1 = bound → last ∈ rows → ∃ interval rest, intervals = interval :: rest ∧
    interval.stop = bound

theorem before_succ_absent (rows : Finset ℕ) (bound : ℕ) (absent : bound ∉ rows) :
    before rows (bound + 1) = before rows bound := by
  ext row
  rw [mem_before,mem_before]
  constructor
  · intro ⟨member,below⟩
    have other : row ≠ bound := fun same => absent (same ▸ member)
    exact ⟨member,by omega⟩
  · exact fun ⟨member,below⟩ => ⟨member,by omega⟩

theorem before_succ_member (rows : Finset ℕ) (bound : ℕ) (member : bound ∈ rows) :
    before rows (bound + 1) = insert bound (before rows bound) := by
  ext row
  rw [mem_before,Finset.mem_insert,mem_before]
  constructor
  · intro ⟨inside,below⟩
    by_cases same : row = bound
    · exact Or.inl same
    · exact Or.inr ⟨inside,by omega⟩
  · intro inside
    rcases inside with same | old
    · subst same
      exact ⟨member,Nat.lt_succ_self _⟩
    · exact ⟨old.1,by omega⟩

theorem Runs.open {rows : Finset ℕ} {bound : ℕ} {intervals : List Interval} (runs : Runs rows bound intervals)
    (member : bound ∈ rows) (first : bound = 0 ∨ bound - 1 ∉ rows) :
    Runs rows (bound + 1) (⟨bound,bound + 1,Nat.lt_succ_self bound⟩ :: intervals) where
  count := by
    have opens : before (starts rows) (bound + 1) = insert bound (before (starts rows) bound) :=
      before_succ_member _ _ ((mem_starts _ _).mpr ⟨member,first⟩)
    rw [starts_before,opens,Finset.card_insert_of_notMem (by simp),← starts_before,← runs.count]
    rfl
  apart := List.pairwise_cons.mpr ⟨fun other listed => Or.inr (runs.ended other listed),runs.apart⟩
  ended := by
    intro interval listed
    rcases List.mem_cons.mp listed with here | old
    · rw [here]
    · exact (runs.ended interval old).trans (Nat.le_succ bound)
  members := by
    intro row
    rw [before_succ_member rows bound member,Finset.mem_insert,runs.members row]
    simp only [List.mem_cons,exists_eq_or_imp]
    apply or_congr_left
    omega
  opened := fun _ _ _ => ⟨_,_,rfl,rfl⟩

private theorem Runs.lengthen {rows : Finset ℕ} {last : ℕ} {interval : Interval} {rest : List Interval}
    (runs : Runs rows (last + 1) (interval :: rest)) (closed : interval.stop = last + 1)
    (previous : last ∈ rows) (member : last + 1 ∈ rows) :
    Runs rows (last + 2) (⟨interval.start,last + 2,by have := interval.proper; omega⟩ :: rest) where
  count := by
    have continued : last + 1 ∉ starts rows := by simp [previous]
    rw [starts_before,before_succ_absent _ _ continued,← starts_before,← runs.count]
    rfl
  apart := by
    obtain ⟨apart,others⟩ := List.pairwise_cons.mp runs.apart
    refine List.pairwise_cons.mpr ⟨?_,others⟩
    intro other listed
    have low := runs.ended other (List.mem_cons_of_mem _ listed)
    have proper := other.proper
    rcases apart other listed with after | first
    · omega
    · exact Or.inr first
  ended := by
    intro other listed
    rcases List.mem_cons.mp listed with here | old
    · rw [here]
    · exact (runs.ended other (List.mem_cons_of_mem _ old)).trans (by omega)
  members := by
    intro row
    have proper := interval.proper
    rw [before_succ_member rows (last + 1) member,Finset.mem_insert,runs.members row]
    simp only [List.mem_cons,exists_eq_or_imp,← or_assoc]
    apply or_congr_left
    omega
  opened := fun _ _ _ => ⟨_,_,rfl,rfl⟩

private theorem runs_before (rows : Finset ℕ) (bound : ℕ) : ∃ intervals, Runs rows bound intervals := by
  induction bound with
  | zero =>
    refine ⟨[],?_,List.Pairwise.nil,by simp,by simp,by simp⟩
    simp [starts,before]
  | succ bound ih =>
    obtain ⟨intervals,runs⟩ := ih
    by_cases member : bound ∈ rows
    · by_cases first : bound = 0 ∨ bound - 1 ∉ rows
      · exact ⟨_,runs.open member first⟩
      · rw [not_or,not_not] at first
        obtain ⟨last,rfl⟩ : ∃ last, bound = last + 1 := ⟨bound - 1,by omega⟩
        obtain ⟨interval,rest,rfl,closed⟩ := runs.opened last rfl first.2
        exact ⟨_,runs.lengthen closed first.2 member⟩
    · refine ⟨intervals,?_,runs.apart,fun interval listed => (runs.ended interval listed).trans (by omega),?_,?_⟩
      · rw [before_succ_absent rows bound member]
        exact runs.count
      · rw [before_succ_absent rows bound member]
        exact runs.members
      · intro last here found
        have same : last = bound := by omega
        exact absurd (same ▸ found) member

/-- Counting intervals is counting the first rows of runs. -/
theorem unionOfAtMost_iff (limit : ℕ) (rows : Finset ℕ) :
    UnionOfAtMost limit rows ↔ (starts rows).card ≤ limit := by
  refine ⟨starts_le_of_union,?_⟩
  intro few
  obtain ⟨bound,above⟩ : ∃ bound, ∀ row ∈ rows, row < bound :=
    ⟨rows.sup id + 1,fun row member => Nat.lt_succ_of_le (Finset.le_sup (f := id) member)⟩
  obtain ⟨intervals,runs⟩ := runs_before rows bound
  have all := before_of_below above
  refine ⟨intervals,?_,runs.apart,?_⟩
  · rw [runs.count,all]
    exact few
  · intro row
    rw [← runs.members row,all]

def covered (weight : ℕ → ℤ) (rows : Finset ℕ) : ℤ := ∑ row ∈ rows, weight row

/-- `length` is the least number of rows, among the first `count` rows, of a union of at most `limit`
disjoint intervals that covers the target. -/
def IsMinimum (weight : ℕ → ℤ) (count : ℕ) (target : ℤ) (limit length : ℕ) : Prop :=
  IsLeast {size | ∃ rows : Finset ℕ, (∀ row ∈ rows, row < count) ∧ UnionOfAtMost limit rows ∧
    target ≤ covered weight rows ∧ rows.card = size} length

end Foundation.Intervals
