import DynamicCssc.Foundation.Intervals

/-! A search for cheap unions of intervals that passes over the rows once. What it holds after some
rows are selections of them, each known by its number of intervals, its number of rows, its weight
and whether it ends at the last row passed. The search is right as long as all it holds is selected
by some set of rows, and every set of rows is matched by something that is no worse. -/
namespace Foundation.Frontier
open Intervals

/-- A selection, as far as a search remembers it. -/
structure Entry where
  inside : Bool
  intervals : ℕ
  selected : ℕ
  weight : ℤ

/-- The last row before the bound is selected. -/
def EndsAt (rows : Finset ℕ) (bound : ℕ) : Prop := ∃ last ∈ rows, last + 1 = bound

variable {weight : ℕ → ℤ} {target : ℤ}

/-- A set of rows before the bound that is as good as the entry says. -/
structure Selects (weight : ℕ → ℤ) (bound : ℕ) (rows : Finset ℕ) (entry : Entry) : Prop where
  below : ∀ row ∈ rows, row < bound
  intervals : (starts rows).card ≤ entry.intervals
  selected : rows.card = entry.selected
  weight : entry.weight ≤ covered weight rows
  inside : entry.inside = true → EndsAt rows bound

def Entry.leave (entry : Entry) : Entry := { entry with inside := false }

/-- Begin a new interval with a row of weight `gain`. -/
def Entry.open (target gain : ℤ) (entry : Entry) : Entry where
  inside := true
  intervals := entry.intervals + 1
  selected := entry.selected + 1
  weight := min target (entry.weight + gain)

/-- Go on with the last interval for `distance` rows of weight `gain` altogether. -/
def Entry.extend (target gain : ℤ) (distance : ℕ) (entry : Entry) : Entry where
  inside := true
  intervals := entry.intervals
  selected := entry.selected + distance
  weight := min target (entry.weight + gain)

variable {bound row : ℕ} {rows : Finset ℕ} {entry : Entry}

theorem Selects.leave (selects : Selects weight bound rows entry) (later : bound ≤ row) :
    Selects weight (row + 1) rows entry.leave where
  below := fun other member => (selects.below other member).trans_le (by omega)
  intervals := selects.intervals
  selected := selects.selected
  weight := selects.weight
  inside := fun inside => by cases inside

theorem Selects.open (selects : Selects weight bound rows entry) (later : bound ≤ row) :
    Selects weight (row + 1) (insert row rows) (entry.open target (weight row)) where
  below := by
    intro other member
    rcases Finset.mem_insert.mp member with here | old
    · omega
    · exact (selects.below other old).trans_le (by omega)
  intervals := (starts_insert rows row).trans (Nat.succ_le_succ selects.intervals)
  selected := by
    have fresh : row ∉ rows := fun member => absurd (selects.below row member) (by omega)
    rw [Finset.card_insert_of_notMem fresh,selects.selected]
    rfl
  weight := by
    have fresh : row ∉ rows := fun member => absurd (selects.below row member) (by omega)
    have held := selects.weight
    rw [covered,Finset.sum_insert fresh]
    apply (min_le_right _ _).trans
    rw [covered] at held
    linarith
  inside := fun _ => ⟨row,Finset.mem_insert_self _ _,rfl⟩

theorem Selects.extend (selects : Selects weight bound rows entry) (inside : entry.inside = true)
    (later : bound ≤ row) (nonnegative : ∀ row, 0 ≤ weight row) :
    ∃ longer, Selects weight (row + 1) longer (entry.extend target (weight row) (row + 1 - bound)) := by
  obtain ⟨last,member,rfl⟩ := selects.inside inside
  have apart : Disjoint rows (Finset.Ioc last row) := by
    rw [Finset.disjoint_left]
    intro other old new
    exact absurd (selects.below other old) (by rw [Finset.mem_Ioc] at new; omega)
  have gained : weight row ≤ ∑ other ∈ Finset.Ioc last row, weight other :=
    Finset.single_le_sum (fun other _ => nonnegative other) (Finset.mem_Ioc.mpr ⟨by omega,le_rfl⟩)
  refine ⟨rows ∪ Finset.Ioc last row,?_,?_,?_,?_,?_⟩
  · intro other found
    rcases Finset.mem_union.mp found with old | new
    · exact (selects.below other old).trans_le (by omega)
    · exact Nat.lt_succ_of_le (Finset.mem_Ioc.mp new).2
  · exact (starts_continue rows last row member).trans selects.intervals
  · rw [Finset.card_union_of_disjoint apart,selects.selected,Nat.card_Ioc]
    exact congrArg (entry.selected + ·) (by omega)
  · have held := selects.weight
    rw [covered,Finset.sum_union apart]
    apply (min_le_right _ _).trans
    rw [covered] at held
    linarith
  · exact fun _ => ⟨row,Finset.mem_union_right _ (Finset.mem_Ioc.mpr ⟨by omega,le_rfl⟩),rfl⟩

/-- An entry that is no worse than the part of a set of rows before the bound. -/
structure Matches (weight : ℕ → ℤ) (target : ℤ) (bound : ℕ) (rows : Finset ℕ) (entry : Entry) : Prop where
  inside : entry.inside = true ↔ EndsAt rows bound
  intervals : entry.intervals ≤ (starts (before rows bound)).card
  selected : entry.selected ≤ (before rows bound).card
  weight : min target (covered weight (before rows bound)) ≤ entry.weight

/-- One entry serves in place of another. -/
structure Serves (entry other : Entry) : Prop where
  inside : entry.inside = other.inside
  intervals : entry.intervals = other.intervals
  selected : entry.selected ≤ other.selected
  weight : other.weight ≤ entry.weight

theorem Matches.serves {other : Entry} (matched : Matches weight target bound rows other)
    (serves : Serves entry other) : Matches weight target bound rows entry where
  inside := by rw [serves.inside]; exact matched.inside
  intervals := serves.intervals ▸ matched.intervals
  selected := serves.selected.trans matched.selected
  weight := matched.weight.trans serves.weight

/-- Something that is held serves for the entry. -/
def Served (held : Entry → Prop) (entry : Entry) : Prop := ∃ new, held new ∧ Serves new entry

/-- A memory filled by writing entries holds nothing else, and something for each of them. -/
theorem foldl_writes {σ : Type} (put : σ → Entry → σ) (held : σ → Entry → Prop) (shaped : σ → Prop)
    (fits : Entry → Prop) (keeps : ∀ memory entry, shaped memory → shaped (put memory entry))
    (sound : ∀ memory entry other, shaped memory → fits entry → held (put memory entry) other →
      held memory other ∨ other = entry)
    (writes : ∀ memory entry, shaped memory → fits entry → 0 ≤ entry.weight →
      Served (held (put memory entry)) entry)
    (serves : ∀ memory entry other, shaped memory → fits entry → 0 ≤ other.weight →
      Served (held memory) other → Served (held (put memory entry)) other)
    (entries : List Entry) (fit : ∀ entry ∈ entries, fits entry) (memory : σ) (start : shaped memory) :
    shaped (entries.foldl put memory) ∧
    (∀ other, held (entries.foldl put memory) other → held memory other ∨ other ∈ entries) ∧
    (∀ other, 0 ≤ other.weight → Served (held memory) other ∨ other ∈ entries →
      Served (held (entries.foldl put memory)) other) := by
  induction entries generalizing memory with
  | nil => exact ⟨start,fun _ => Or.inl,fun _ _ served => served.resolve_right List.not_mem_nil⟩
  | cons first entries ih =>
    have here := fit first List.mem_cons_self
    obtain ⟨shape,only,all⟩ := ih (fun entry member => fit entry (List.mem_cons_of_mem _ member))
      (put memory first) (keeps memory first start)
    refine ⟨shape,?_,?_⟩
    · intro other found
      rcases only other found with old | later
      · rcases sound memory first other start here old with before | same
        · exact Or.inl before
        · exact Or.inr (List.mem_cons.mpr (Or.inl same))
      · exact Or.inr (List.mem_cons_of_mem _ later)
    · intro other nonnegative wanted
      apply all other nonnegative
      rcases wanted with before | member
      · exact Or.inl (serves memory first other start here nonnegative before)
      · rcases List.mem_cons.mp member with same | later
        · subst same
          exact Or.inl (writes memory other start here nonnegative)
        · exact Or.inr later

private theorem covered_before_skip (rows : Finset ℕ) (later : bound ≤ row)
    (skipped : ∀ between, bound ≤ between → between < row → weight between = 0) :
    covered weight (before rows row) = covered weight (before rows bound) := by
  symm
  apply Finset.sum_subset (before_mono rows later)
  intro other member absent
  rw [mem_before] at member absent
  exact skipped other (by by_contra early; exact absent ⟨member.1,by omega⟩) member.2

private theorem covered_before_absent (rows : Finset ℕ) (absent : row ∉ rows) :
    covered weight (before rows (row + 1)) = covered weight (before rows row) := by
  rw [before_succ_absent rows row absent]

private theorem covered_before_member (rows : Finset ℕ) (member : row ∈ rows) :
    covered weight (before rows (row + 1)) = covered weight (before rows row) + weight row := by
  rw [before_succ_member rows row member,covered,Finset.sum_insert (by simp),add_comm]
  rfl

theorem Matches.leave (matched : Matches weight target bound rows entry) (later : bound ≤ row)
    (skipped : ∀ between, bound ≤ between → between < row → weight between = 0) (absent : row ∉ rows) :
    Matches weight target (row + 1) rows entry.leave where
  inside := by
    constructor
    · exact fun inside => by cases inside
    · intro ends
      obtain ⟨last,member,here⟩ := ends
      have same : last = row := by omega
      exact absurd (same ▸ member) absent
  intervals := by
    refine matched.intervals.trans ?_
    rw [starts_before,starts_before]
    exact Finset.card_le_card (before_mono _ (by omega))
  selected := matched.selected.trans (Finset.card_le_card (before_mono _ (by omega)))
  weight := by
    rw [covered_before_absent rows absent,covered_before_skip rows later skipped]
    exact matched.weight

private theorem endsAt_succ (member : row ∈ rows) : EndsAt rows (row + 1) := ⟨row,member,rfl⟩

private theorem gained (member : row ∈ rows) (later : bound ≤ row)
    (skipped : ∀ between, bound ≤ between → between < row → weight between = 0)
    (nonnegative : ∀ row, 0 ≤ weight row)
    (held : min target (covered weight (before rows bound)) ≤ entry.weight) :
    min target (covered weight (before rows (row + 1))) ≤ min target (entry.weight + weight row) := by
  rw [covered_before_member rows member,covered_before_skip rows later skipped]
  have gain := nonnegative row
  refine le_min (min_le_left _ _) ?_
  rcases le_total target (covered weight (before rows bound)) with full | part
  · rw [min_eq_left full] at held
    exact (min_le_left _ _).trans (by linarith)
  · rw [min_eq_right part] at held
    exact (min_le_right _ _).trans (by linarith)

theorem Matches.open {first : ℕ} (matched : Matches weight target bound rows entry) (later : bound ≤ row)
    (skipped : ∀ between, bound ≤ between → between < row → weight between = 0)
    (nonnegative : ∀ row, 0 ≤ weight row) (member : row ∈ rows) (opens : first ∈ starts rows)
    (after : bound ≤ first) (ahead : first ≤ row) :
    Matches weight target (row + 1) rows (entry.open target (weight row)) where
  inside := ⟨fun _ => endsAt_succ member,fun _ => rfl⟩
  intervals := by
    have held := matched.intervals
    rw [starts_before] at held ⊢
    have more : insert first (before (starts rows) bound) ⊆ before (starts rows) (row + 1) := by
      apply Finset.insert_subset
      · exact (mem_before _ _ _).mpr ⟨opens,by omega⟩
      · exact before_mono _ (by omega)
    have fresh : first ∉ before (starts rows) bound := fun old => by
      rw [mem_before] at old
      omega
    have counted := Finset.card_le_card more
    rw [Finset.card_insert_of_notMem fresh] at counted
    exact (Nat.succ_le_succ held).trans counted
  selected := by
    have more : insert row (before rows bound) ⊆ before rows (row + 1) := by
      apply Finset.insert_subset
      · exact (mem_before _ _ _).mpr ⟨member,by omega⟩
      · exact before_mono _ (by omega)
    have counted := Finset.card_le_card more
    rw [Finset.card_insert_of_notMem (by rw [mem_before]; omega)] at counted
    exact (Nat.succ_le_succ matched.selected).trans counted
  weight := gained member later skipped nonnegative matched.weight

theorem Matches.extend (matched : Matches weight target bound rows entry) (later : bound ≤ row)
    (skipped : ∀ between, bound ≤ between → between < row → weight between = 0)
    (nonnegative : ∀ row, 0 ≤ weight row)
    (whole : ∀ between, bound ≤ between → between ≤ row → between ∈ rows) :
    Matches weight target (row + 1) rows (entry.extend target (weight row) (row + 1 - bound)) where
  inside := ⟨fun _ => endsAt_succ (whole row later le_rfl),fun _ => rfl⟩
  intervals := by
    refine matched.intervals.trans ?_
    rw [starts_before,starts_before]
    exact Finset.card_le_card (before_mono _ (by omega))
  selected := by
    have more : before rows bound ∪ Finset.Ico bound (row + 1) ⊆ before rows (row + 1) := by
      intro other member
      rw [Finset.mem_union,Finset.mem_Ico,mem_before] at member
      rw [mem_before]
      rcases member with old | new
      · exact ⟨old.1,by omega⟩
      · exact ⟨whole other new.1 (by omega),new.2⟩
    have apart : Disjoint (before rows bound) (Finset.Ico bound (row + 1)) := by
      rw [Finset.disjoint_left]
      intro other old new
      rw [mem_before] at old
      rw [Finset.mem_Ico] at new
      omega
    have counted := Finset.card_le_card more
    rw [Finset.card_union_of_disjoint apart,Nat.card_Ico] at counted
    exact (Nat.add_le_add_right matched.selected _).trans counted
  weight := gained (whole row later le_rfl) later skipped nonnegative matched.weight

/-- What a search holds after the rows before the bound, for unions of at most `limit` intervals. -/
structure Correct (weight : ℕ → ℤ) (target : ℤ) (limit bound : ℕ) (held : Entry → Prop) : Prop where
  sound : ∀ entry, held entry → 0 ≤ entry.weight ∧ ∃ rows, Selects weight bound rows entry
  complete : ∀ rows, (starts rows).card ≤ limit → ∃ entry, held entry ∧ Matches weight target bound rows entry

theorem Correct.initial {limit : ℕ} {held : Entry → Prop}
    (start : ∀ entry, held entry ↔ entry = ⟨false,0,0,0⟩) : Correct weight target limit 0 held where
  sound := by
    intro entry here
    rw [start] at here
    subst here
    exact ⟨le_rfl,∅,by simp,by simp [starts],rfl,by simp [covered],fun inside => by cases inside⟩
  complete := by
    intro rows few
    refine ⟨_,(start _).mpr rfl,?_,Nat.zero_le _,Nat.zero_le _,?_⟩
    · constructor
      · exact fun inside => by cases inside
      · intro ends
        obtain ⟨last,_,past⟩ := ends
        omega
    · simp [covered,before]

/-- The ways on from an entry over a row. -/
inductive Move (target gain : ℤ) (limit distance : ℕ) (entry : Entry) : Entry → Prop
  | leave : Move target gain limit distance entry entry.leave
  | open : entry.intervals < limit → Move target gain limit distance entry (entry.open target gain)
  | extend : entry.inside = true →
      Move target gain limit distance entry (entry.extend target gain distance)

theorem Move.nonnegative {gain : ℤ} {limit distance : ℕ} {entry next : Entry}
    (move : Move target gain limit distance entry next) (positive : 0 ≤ target) (gains : 0 ≤ gain)
    (held : 0 ≤ entry.weight) : 0 ≤ next.weight := by
  cases move with
  | leave => exact held
  | «open» _ => exact le_min positive (add_nonneg held gains)
  | extend _ => exact le_min positive (add_nonneg held gains)

theorem Move.intervals_le {gain : ℤ} {limit distance : ℕ} {next : Entry}
    (move : Move target gain limit distance entry next) (few : entry.intervals ≤ limit) :
    next.intervals ≤ limit := by
  cases move with
  | leave => exact few
  | «open» more => exact more
  | extend _ => exact few

theorem Move.of_distance {gain : ℤ} {limit distance other : ℕ} {next : Entry}
    (move : Move target gain limit distance entry next) (same : entry.inside = true → distance = other) :
    Move target gain limit other entry next := by
  cases move with
  | leave => exact Move.leave
  | «open» more => exact Move.open more
  | extend inside => exact same inside ▸ Move.extend inside

/-- One row. Everything the search holds afterwards comes from a move, and every move is served; only
a new interval right behind the last one need not be. -/
theorem Correct.step {limit : ℕ} {held next : Entry → Prop}
    (frontier : Correct weight target limit bound held) (positive : 0 ≤ target)
    (nonnegative : ∀ row, 0 ≤ weight row) (later : bound ≤ row)
    (skipped : ∀ between, bound ≤ between → between < row → weight between = 0)
    (sound : ∀ entry, next entry →
      ∃ old, held old ∧ Move target (weight row) limit (row + 1 - bound) old entry)
    (complete : ∀ old entry, held old → old.intervals ≤ bound → old.selected ≤ bound →
      Move target (weight row) limit (row + 1 - bound) old entry →
      (entry.intervals = old.intervals + 1 → old.inside = true → bound < row) → Served next entry) :
    Correct weight target limit (row + 1) next where
  sound := by
    intro entry here
    obtain ⟨old,was,move⟩ := sound entry here
    obtain ⟨kept,rows,selects⟩ := frontier.sound old was
    refine ⟨move.nonnegative positive (nonnegative row) kept,?_⟩
    cases move with
    | leave => exact ⟨rows,selects.leave later⟩
    | «open» _ => exact ⟨_,selects.open later⟩
    | extend inside => exact selects.extend inside later nonnegative
  complete := by
    intro rows few
    obtain ⟨old,was,matched⟩ := frontier.complete rows few
    have short : (before rows bound).card ≤ bound := by
      have inRange : before rows bound ⊆ Finset.range bound := fun other member =>
        Finset.mem_range.mpr ((mem_before _ _ _).mp member).2
      simpa using Finset.card_le_card inRange
    have selected := matched.selected.trans short
    have intervals : old.intervals ≤ bound :=
      (matched.intervals.trans (Finset.card_filter_le _ _)).trans short
    -- the move that the rows themselves make
    obtain ⟨entry,move,allowed,good⟩ : ∃ entry, Move target (weight row) limit (row + 1 - bound) old entry ∧
        (entry.intervals = old.intervals + 1 → old.inside = true → bound < row) ∧
        Matches weight target (row + 1) rows entry := by
      by_cases member : row ∈ rows
      · obtain ⟨first,opens,ahead,whole⟩ := run_start rows row member
        by_cases after : bound ≤ first
        · have good := matched.open later skipped nonnegative member opens after ahead
          refine ⟨_,Move.open ?_,?_,good⟩
          · have most := good.intervals.trans (Finset.card_le_card
              (show starts (before rows (row + 1)) ⊆ starts rows from
                starts_before rows _ ▸ Finset.filter_subset _ _))
            exact Nat.lt_of_succ_le (most.trans few)
          · intro _ inside
            -- the row before the bound is selected, so no run starts at the bound
            obtain ⟨last,chosen,here⟩ := matched.inside.mp inside
            by_contra adjacent
            have same : first - 1 = last := by omega
            rcases ((mem_starts _ _).mp opens).2 with zero | absent
            · omega
            · exact absent (same ▸ chosen)
        · have inside : old.inside = true :=
            matched.inside.mpr ⟨bound - 1,whole _ (by omega) (by omega),by omega⟩
          refine ⟨_,Move.extend inside,fun more => absurd more (Nat.ne_of_lt (Nat.lt_succ_self _)),?_⟩
          exact matched.extend later skipped nonnegative fun between _ low =>
            whole between (by omega) low
      · exact ⟨_,Move.leave,fun more => absurd more (Nat.ne_of_lt (Nat.lt_succ_self _)),
          matched.leave later skipped member⟩
    obtain ⟨new,here,serves⟩ := complete old entry was intervals selected move allowed
    exact ⟨new,here,good.serves serves⟩

theorem Correct.achieved {limit count : ℕ} {held : Entry → Prop}
    (frontier : Correct weight target limit bound held) (inside : bound ≤ count) (entry : Entry)
    (here : held entry) (enough : target ≤ entry.weight) : ∃ rows : Finset ℕ, (∀ row ∈ rows, row < count) ∧
      UnionOfAtMost entry.intervals rows ∧ target ≤ covered weight rows ∧ rows.card = entry.selected := by
  obtain ⟨_,rows,selects⟩ := frontier.sound entry here
  refine ⟨rows,?_,?_,enough.trans selects.weight,selects.selected⟩
  · exact fun row member => (selects.below row member).trans_le inside
  · exact (unionOfAtMost_iff _ _).mpr selects.intervals

theorem Correct.matched {limit few : ℕ} {held : Entry → Prop}
    (frontier : Correct weight target limit bound held)
    (rest : ∀ row, bound ≤ row → weight row = 0) (within : few ≤ limit) (rows : Finset ℕ)
    (union : UnionOfAtMost few rows) (enough : target ≤ covered weight rows) :
    ∃ entry, held entry ∧ entry.intervals ≤ few ∧ entry.selected ≤ rows.card ∧ target ≤ entry.weight := by
  have counted := (unionOfAtMost_iff _ _).mp union
  obtain ⟨entry,here,good⟩ := frontier.complete rows (counted.trans within)
  have all : covered weight (before rows bound) = covered weight rows := by
    apply Finset.sum_subset (Finset.filter_subset _ _)
    intro row member absent
    exact rest row (by by_contra early; exact absent ((mem_before _ _ _).mpr ⟨member,by omega⟩))
  refine ⟨entry,here,?_,?_,?_⟩
  · refine good.intervals.trans ((Finset.card_le_card ?_).trans counted)
    exact starts_before rows bound ▸ Finset.filter_subset _ _
  · exact good.selected.trans (Finset.card_le_card (Finset.filter_subset _ _))
  · have held := good.weight
    rw [all,min_eq_left enough] at held
    exact held

theorem positive_intervals {limit : ℕ} {rows : Finset ℕ} (positive : 0 < target)
    (union : UnionOfAtMost limit rows) (enough : target ≤ covered weight rows) : 0 < limit := by
  by_contra none
  have zero : limit = 0 := by omega
  subst zero
  obtain ⟨intervals,few,_,members⟩ := union
  have nothing : intervals = [] := List.length_eq_zero_iff.mp (Nat.le_zero.mp few)
  have empty : rows = ∅ := Finset.eq_empty_of_forall_notMem fun row member => by
    obtain ⟨interval,listed,_⟩ := (members row).mp member
    simp [nothing] at listed
  rw [empty,covered,Finset.sum_empty] at enough
  omega

/-- A pass over rows in ascending order: what it skips weighs nothing. `follows` says which row may
come next at a bound. -/
def Scan (weight : ℕ → ℤ) (follows : ℕ → ℕ → Prop) : ℕ → List (ℕ × ℤ) → Prop
  | bound, [] => ∀ row, bound ≤ row → weight row = 0
  | bound, item :: items => follows bound item.1 ∧ item.2 = weight item.1 ∧
      (∀ row, bound ≤ row → row < item.1 → weight row = 0) ∧ Scan weight follows (item.1 + 1) items

variable {follows : ℕ → ℕ → Prop}

theorem Scan.skip {items : List (ℕ × ℤ)} (scan : Scan weight follows (bound + 1) items)
    (zero : weight bound = 0) (earlier : ∀ row, follows (bound + 1) row → follows bound row) :
    Scan weight follows bound items := by
  have none : ∀ row, bound ≤ row → (bound + 1 ≤ row → weight row = 0) → weight row = 0 := by
    intro row above otherwise
    rcases Nat.eq_or_lt_of_le above with here | past
    · exact here ▸ zero
    · exact otherwise past
  cases items with
  | nil => exact fun row above => none row above (scan row)
  | cons item items =>
    obtain ⟨next,weighs,skipped,rest⟩ := scan
    exact ⟨earlier _ next,weighs,fun row low high => none row low fun past => skipped row past high,rest⟩

/-- The whole pass. `state` is what the search is at a bound. -/
theorem scan_correct {σ : Type} {limit count : ℕ} (step : σ → ℕ × ℤ → σ) (held : σ → Entry → Prop)
    (state : ℕ → σ → Prop) (inside : ∀ bound row, follows bound row → row < count)
    (steps : ∀ bound row memory, state bound memory → Correct weight target limit bound (held memory) →
      follows bound row → (∀ between, bound ≤ between → between < row → weight between = 0) →
      state (row + 1) (step memory (row,weight row)) ∧
      Correct weight target limit (row + 1) (held (step memory (row,weight row))))
    (items : List (ℕ × ℤ)) (memory : σ) (scan : Scan weight follows bound items) (within : bound ≤ count)
    (start : state bound memory) (correct : Correct weight target limit bound (held memory)) :
    ∃ final ≤ count, (∀ row, final ≤ row → weight row = 0) ∧ state final (items.foldl step memory) ∧
      Correct weight target limit final (held (items.foldl step memory)) := by
  induction items generalizing bound memory with
  | nil => exact ⟨bound,within,scan,start,correct⟩
  | cons item items ih =>
    obtain ⟨row,gain⟩ := item
    obtain ⟨next,weighs,skipped,rest⟩ := scan
    change gain = weight row at weighs
    subst weighs
    obtain ⟨kept,good⟩ := steps bound row memory start correct next skipped
    exact ih _ rest (inside bound row next) kept good

end Foundation.Frontier
