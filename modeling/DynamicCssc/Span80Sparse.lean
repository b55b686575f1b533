import DynamicCssc.Span80
import DynamicCssc.Foundation.Frontier

/-! The sparse search: a row writes every move of every entry into fresh dictionaries, and pruning
leaves an entry that serves for each of them. -/
namespace DynamicCssc.Span80
open Foundation Foundation.Frontier

private theorem mem_pruneFrom (best : ℤ) (states : States) : ∀ state ∈ pruneFrom best states, state ∈ states := by
  induction states generalizing best with
  | nil => exact fun _ member => member
  | cons head states ih =>
    intro state member
    rw [pruneFrom] at member
    split at member
    · rcases List.mem_cons.mp member with here | rest
      · exact here ▸ List.mem_cons_self
      · exact List.mem_cons_of_mem _ (ih _ state rest)
    · exact List.mem_cons_of_mem _ (ih _ state member)

private theorem mem_pruneDominated (states : States) : ∀ state ∈ pruneDominated states, state ∈ states := by
  intro state member
  exact (Sorting.mem_sortedBy _ _ _).mp (mem_pruneFrom _ _ state member)

private theorem pruneFrom_serves (best : ℤ) (states : States) (ordered : states.Pairwise fun a b => a.1 ≤ b.1) :
    ∀ state ∈ states, state.2 ≤ best ∨
      ∃ kept ∈ pruneFrom best states, kept.1 ≤ state.1 ∧ state.2 ≤ kept.2 := by
  induction states generalizing best with
  | nil => exact fun _ member => absurd member List.not_mem_nil
  | cons head states ih =>
    obtain ⟨first,rest⟩ := List.pairwise_cons.mp ordered
    intro state member
    rw [pruneFrom]
    rcases List.mem_cons.mp member with here | later
    · subst here
      split
      · exact Or.inr ⟨state,List.mem_cons_self,le_rfl,le_rfl⟩
      · rename_i low
        exact Or.inl (not_lt.mp low)
    · split
      · right
        rcases ih head.2 rest state later with low | ⟨kept,listed,fewer,heavier⟩
        · exact ⟨head,List.mem_cons_self,first state later,low⟩
        · exact ⟨kept,List.mem_cons_of_mem _ listed,fewer,heavier⟩
      · exact ih best rest state later

private theorem pruneDominated_serves (states : States) (state : ℕ × ℤ) (member : state ∈ states)
    (nonnegative : 0 ≤ state.2) : ∃ kept ∈ pruneDominated states, kept.1 ≤ state.1 ∧ state.2 ≤ kept.2 := by
  rcases pruneFrom_serves (-1) _ (Sorting.sortedBy_ordered Prod.fst states) state
    ((Sorting.mem_sortedBy _ _ _).mpr member) with low | found
  · omega
  · exact found

private theorem mem_dictSet (key : ℕ) (value : ℤ) (states : States) :
    ∀ state ∈ Dict.set key value states, state = (key,value) ∨ state ∈ states := by
  induction states with
  | nil => simp [Dict.set]
  | cons head states ih =>
    intro state member
    rw [Dict.set] at member
    split at member
    · rcases List.mem_cons.mp member with here | rest
      · exact Or.inl here
      · exact Or.inr (List.mem_cons_of_mem _ rest)
    · rcases List.mem_cons.mp member with here | rest
      · exact Or.inr (here ▸ List.mem_cons_self)
      · exact (ih state rest).imp_right (List.mem_cons_of_mem _)

private theorem dictSet_mem (key : ℕ) (value : ℤ) (states : States) : (key,value) ∈ Dict.set key value states := by
  induction states with
  | nil => simp [Dict.set]
  | cons head states ih =>
    rw [Dict.set]
    split
    · exact List.mem_cons_self
    · exact List.mem_cons_of_mem _ ih

private theorem dictSet_serves (key : ℕ) (value : ℤ) (states : States)
    (raised : ∀ old, states.lookup key = some old → old ≤ value) :
    ∀ state ∈ states, ∃ kept ∈ Dict.set key value states, kept.1 = state.1 ∧ state.2 ≤ kept.2 := by
  induction states with
  | nil => exact fun _ member => absurd member List.not_mem_nil
  | cons head states ih =>
    obtain ⟨rows,weight⟩ := head
    intro state member
    rw [Dict.set]
    split
    · rename_i same
      rcases List.mem_cons.mp member with here | rest
      · subst here
        refine ⟨_,List.mem_cons_self,same.symm,raised _ ?_⟩
        rw [Dict.lookup_cons_eq,if_pos same.symm]
      · exact ⟨state,List.mem_cons_of_mem _ rest,rfl,le_rfl⟩
    · rename_i other
      have raised' : ∀ old, states.lookup key = some old → old ≤ value := by
        intro old found
        exact raised old (by rw [Dict.lookup_cons_eq,if_neg (Ne.symm other)]; exact found)
      rcases List.mem_cons.mp member with here | rest
      · exact ⟨state,here ▸ List.mem_cons_self,rfl,le_rfl⟩
      · obtain ⟨kept,listed,good⟩ := ih raised' state rest
        exact ⟨kept,List.mem_cons_of_mem _ listed,good⟩

private theorem Frontiers.states_put (frontiers : Frontiers) (count other selected : ℕ) (value : ℤ) :
    (frontiers.put count selected value).states other =
      if other = count ∧ count < frontiers.length then
        Dict.set selected (max (((frontiers.states count).lookup selected).getD (-1)) value)
          (frontiers.states count)
      else frontiers.states other := by
  simp only [Frontiers.states,Frontiers.put,List.getD_eq_getElem?_getD,List.getElem?_modify]
  by_cases same : other = count
  · subst same
    by_cases inside : other < frontiers.length
    · simp [inside]
    · simp [inside]
  · simp [same,Ne.symm same]

def SparseTables.side (tables : SparseTables) : Bool → Frontiers
  | true => tables.inside
  | false => tables.outside

def SparseTables.Held (tables : SparseTables) (entry : Entry) : Prop :=
  (entry.selected,entry.weight) ∈ (tables.side entry.inside).states entry.intervals

/-- A dictionary for every interval count. -/
def SparseTables.Shaped (maxIntervals : ℕ) (tables : SparseTables) : Prop :=
  ∀ inside, (tables.side inside).length = maxIntervals + 1

/-- Every write of the search: one entry, unless there is a heavier one. -/
def SparseTables.put (tables : SparseTables) (entry : Entry) : SparseTables :=
  match entry.inside with
  | true => { tables with inside := tables.inside.put entry.intervals entry.selected entry.weight }
  | false => { tables with outside := tables.outside.put entry.intervals entry.selected entry.weight }

theorem SparseTables.side_put (tables : SparseTables) (entry : Entry) (inside : Bool) :
    (tables.put entry).side inside = if inside = entry.inside then
      (tables.side inside).put entry.intervals entry.selected entry.weight else tables.side inside := by
  obtain ⟨here,intervals,selected,weight⟩ := entry
  cases here <;> cases inside <;> rfl

variable {maxIntervals : ℕ} {tables : SparseTables}

theorem SparseTables.Shaped.put (shaped : tables.Shaped maxIntervals) (entry : Entry) :
    (tables.put entry).Shaped maxIntervals := by
  intro inside
  rw [SparseTables.side_put]
  split
  · rw [Frontiers.put,List.length_modify,shaped inside]
  · exact shaped inside

theorem SparseTables.held_put {entry other : Entry} (nonnegative : 0 ≤ entry.weight)
    (held : (tables.put entry).Held other) : tables.Held other ∨ other = entry := by
  obtain ⟨inside,intervals,selected,weight⟩ := other
  simp only [SparseTables.Held,SparseTables.side_put] at held ⊢
  split at held
  · rename_i same
    rw [Frontiers.states_put] at held
    split at held
    · rename_i place
      obtain ⟨counts,_⟩ := place
      subst same counts
      rcases mem_dictSet _ _ _ _ held with new | old
      · rw [Prod.mk.injEq] at new
        obtain ⟨rows,weighs⟩ := new
        subst rows
        cases found : ((tables.side entry.inside).states entry.intervals).lookup entry.selected with
        | none =>
          rw [found,Option.getD_none,max_eq_right (by omega)] at weighs
          exact Or.inr (weighs ▸ rfl)
        | some old =>
          rw [found,Option.getD_some] at weighs
          rcases max_choice old entry.weight with kept | raised
          · rw [weighs,kept]
            exact Or.inl (Dict.mem_of_lookup found)
          · rw [weighs,raised]
            exact Or.inr rfl
      · exact Or.inl old
    · exact Or.inl held
  · exact Or.inl held

theorem SparseTables.put_served (shaped : tables.Shaped maxIntervals) (entry : Entry)
    (few : entry.intervals ≤ maxIntervals) : Served (tables.put entry).Held entry := by
  let value := max ((((tables.side entry.inside).states entry.intervals).lookup entry.selected).getD (-1))
    entry.weight
  refine ⟨{ entry with weight := value },?_,rfl,rfl,le_rfl,le_max_right _ _⟩
  simp only [SparseTables.Held,SparseTables.side_put,if_true,Frontiers.states_put]
  rw [if_pos ⟨trivial,by rw [shaped]; omega⟩]
  exact dictSet_mem _ _ _

theorem SparseTables.served_put {entry : Entry} (served : Served tables.Held entry) (other : Entry) :
    Served (tables.put other).Held entry := by
  obtain ⟨new,held,serves⟩ := served
  obtain ⟨weight,heavier,kept⟩ : ∃ weight, new.weight ≤ weight ∧
      (tables.put other).Held { new with weight := weight } := by
    simp only [SparseTables.Held,SparseTables.side_put] at held ⊢
    split
    · rename_i same
      rw [Frontiers.states_put]
      split
      · rename_i place
        obtain ⟨counts,_⟩ := place
        have raised : ∀ old, ((tables.side new.inside).states other.intervals).lookup other.selected =
            some old → old ≤ max ((((tables.side new.inside).states other.intervals).lookup
              other.selected).getD (-1)) other.weight := by
          intro old found
          rw [found]
          exact le_max_left _ _
        obtain ⟨kept,listed,rows,heavier⟩ := dictSet_serves _ _ _ raised _ (counts ▸ held)
        change kept.1 = new.selected at rows
        exact ⟨kept.2,heavier,rows ▸ listed⟩
      · exact ⟨_,le_rfl,held⟩
    · exact ⟨_,le_rfl,held⟩
  exact ⟨_,kept,serves.inside,serves.intervals,serves.selected,serves.weight.trans heavier⟩

/-- Dictionaries filled by writing entries hold nothing else, and something for each. -/
theorem SparseTables.foldl_put (entries : List Entry) (shaped : tables.Shaped maxIntervals)
    (fit : ∀ entry ∈ entries, entry.intervals ≤ maxIntervals ∧ 0 ≤ entry.weight) :
    (entries.foldl SparseTables.put tables).Shaped maxIntervals ∧
    (∀ entry, (entries.foldl SparseTables.put tables).Held entry → tables.Held entry ∨ entry ∈ entries) ∧
    (∀ entry, 0 ≤ entry.weight → Served tables.Held entry ∨ entry ∈ entries →
      Served (entries.foldl SparseTables.put tables).Held entry) :=
  foldl_writes SparseTables.put SparseTables.Held (SparseTables.Shaped maxIntervals) _
    (fun _ entry shaped => shaped.put entry)
    (fun _ _ _ _ fits => SparseTables.held_put fits.2)
    (fun _ entry shaped fits _ => SparseTables.put_served shaped entry fits.1)
    (fun _ entry _ _ _ _ served => SparseTables.served_put served entry) entries fit tables shaped

variable {target weight : ℤ} {distance : ℕ}

/-- What the loops write for one state of `outside`. -/
def outsideMoves (maxIntervals : ℕ) (target weight : ℤ) (intervalCount : ℕ) (state : ℕ × ℤ) : List Entry :=
  let entry : Entry := ⟨false,intervalCount,state.1,state.2⟩
  entry.leave :: if intervalCount < maxIntervals then [entry.open target weight] else []

/-- What the loops write for one state of `inside`. -/
def insideMoves (maxIntervals : ℕ) (target weight : ℤ) (distance intervalCount : ℕ) (state : ℕ × ℤ) :
    List Entry :=
  let entry : Entry := ⟨true,intervalCount,state.1,state.2⟩
  entry.leave :: entry.extend target weight distance ::
    if intervalCount < maxIntervals then [entry.open target weight] else []

def countMoves (maxIntervals : ℕ) (target weight : ℤ) (distance : ℕ) (held : SparseTables)
    (intervalCount : ℕ) : List Entry :=
  (held.outside.states intervalCount).flatMap (outsideMoves maxIntervals target weight intervalCount) ++
    (held.inside.states intervalCount).flatMap (insideMoves maxIntervals target weight distance intervalCount)

private theorem sparseCount_moves (held next : SparseTables) (intervalCount : ℕ) :
    sparseCount maxIntervals target weight distance held next intervalCount =
      (countMoves maxIntervals target weight distance held intervalCount).foldl SparseTables.put next := by
  have outside : sparseOutside maxIntervals target weight intervalCount = fun next state =>
      (outsideMoves maxIntervals target weight intervalCount state).foldl SparseTables.put next := by
    funext next state
    unfold sparseOutside outsideMoves
    by_cases more : intervalCount < maxIntervals
    · simp only [if_pos more]
      rfl
    · simp only [if_neg more]
      rfl
  have inside : sparseInside maxIntervals target weight distance intervalCount = fun next state =>
      (insideMoves maxIntervals target weight distance intervalCount state).foldl SparseTables.put next := by
    funext next state
    unfold sparseInside insideMoves
    by_cases more : intervalCount < maxIntervals
    · simp only [if_pos more]
      rfl
    · simp only [if_neg more]
      rfl
  rw [sparseCount,countMoves,outside,inside,List.foldl_append,List.foldl_flatMap,List.foldl_flatMap]

private theorem mem_countMoves (held : SparseTables) (intervalCount : ℕ) (entry : Entry) :
    entry ∈ countMoves maxIntervals target weight distance held intervalCount ↔
      ∃ old, held.Held old ∧ old.intervals = intervalCount ∧
        Move target weight maxIntervals distance old entry := by
  simp only [countMoves,List.mem_append,List.mem_flatMap,outsideMoves,insideMoves,List.mem_cons]
  constructor
  · intro written
    rcases written with ⟨state,listed,move⟩ | ⟨state,listed,move⟩
    · refine ⟨⟨false,intervalCount,state.1,state.2⟩,listed,rfl,?_⟩
      rcases move with left | opened
      · exact left ▸ Move.leave
      · split at opened
        · rename_i more
          exact List.mem_singleton.mp opened ▸ Move.open more
        · exact absurd opened List.not_mem_nil
    · refine ⟨⟨true,intervalCount,state.1,state.2⟩,listed,rfl,?_⟩
      rcases move with left | longer | opened
      · exact left ▸ Move.leave
      · exact longer ▸ Move.extend rfl
      · split at opened
        · rename_i more
          exact List.mem_singleton.mp opened ▸ Move.open more
        · exact absurd opened List.not_mem_nil
  · intro moved
    obtain ⟨⟨inside,count,selected,covered⟩,listed,here,move⟩ := moved
    change count = intervalCount at here
    subst here
    cases inside with
    | false =>
      refine Or.inl ⟨(selected,covered),listed,?_⟩
      cases move with
      | leave => exact Or.inl rfl
      | «open» more => exact Or.inr (by rw [if_pos more]; exact List.mem_singleton.mpr rfl)
      | extend longer => cases longer
    | true =>
      refine Or.inr ⟨(selected,covered),listed,?_⟩
      cases move with
      | leave => exact Or.inl rfl
      | «open» more => exact Or.inr (Or.inr (by rw [if_pos more]; exact List.mem_singleton.mpr rfl))
      | extend longer => exact Or.inr (Or.inl rfl)

def rowMoves (maxIntervals : ℕ) (target weight : ℤ) (distance : ℕ) (held : SparseTables) : List Entry :=
  (List.range (maxIntervals + 1)).flatMap (countMoves maxIntervals target weight distance held)

private theorem mem_rowMoves (held : SparseTables) (entry : Entry) :
    entry ∈ rowMoves maxIntervals target weight distance held ↔
      ∃ old, held.Held old ∧ old.intervals ≤ maxIntervals ∧
        Move target weight maxIntervals distance old entry := by
  simp only [rowMoves,List.mem_flatMap,List.mem_range,mem_countMoves]
  constructor
  · intro found
    obtain ⟨count,few,old,held,same,move⟩ := found
    exact ⟨old,held,by omega,move⟩
  · intro found
    obtain ⟨old,held,few,move⟩ := found
    exact ⟨old.intervals,by omega,old,held,rfl,move⟩

private theorem Frontiers.states_prune (frontiers : Frontiers) (count : ℕ) :
    Frontiers.states (frontiers.map pruneDominated) count = pruneDominated (frontiers.states count) := by
  simp only [Frontiers.states,List.getD_eq_getElem?_getD,List.getElem?_map]
  cases frontiers[count]? with
  | none => rfl
  | some states => rfl

def SparseTables.prune (tables : SparseTables) : SparseTables :=
  ⟨tables.outside.map pruneDominated,tables.inside.map pruneDominated⟩

private theorem SparseTables.side_prune (tables : SparseTables) (inside : Bool) :
    tables.prune.side inside = (tables.side inside).map pruneDominated := by
  cases inside <;> rfl

private theorem SparseTables.held_prune {entry : Entry} (held : tables.prune.Held entry) : tables.Held entry := by
  rw [SparseTables.Held,SparseTables.side_prune,Frontiers.states_prune] at held
  exact mem_pruneDominated _ _ held

/-- Pruning leaves something as good. -/
private theorem SparseTables.served_prune {entry : Entry} (served : Served tables.Held entry)
    (nonnegative : ∀ entry, tables.Held entry → 0 ≤ entry.weight) : Served tables.prune.Held entry := by
  obtain ⟨new,held,serves⟩ := served
  obtain ⟨⟨selected,weight⟩,listed,fewer,heavier⟩ :=
    pruneDominated_serves _ (new.selected,new.weight) held (nonnegative new held)
  refine ⟨⟨new.inside,new.intervals,selected,weight⟩,?_,serves.inside,serves.intervals,
    fewer.trans serves.selected,serves.weight.trans heavier⟩
  rw [SparseTables.Held,SparseTables.side_prune,Frontiers.states_prune]
  exact listed

def emptyTables (maxIntervals : ℕ) : SparseTables :=
  ⟨List.replicate (maxIntervals + 1) [],List.replicate (maxIntervals + 1) []⟩

private theorem emptyTables_shaped (maxIntervals : ℕ) : (emptyTables maxIntervals).Shaped maxIntervals := by
  intro inside
  cases inside <;> exact List.length_replicate

private theorem emptyTables_empty (maxIntervals : ℕ) (entry : Entry) : ¬(emptyTables maxIntervals).Held entry := by
  have none : ∀ inside count, ((emptyTables maxIntervals).side inside).states count = [] := by
    intro inside count
    have side : (emptyTables maxIntervals).side inside = List.replicate (maxIntervals + 1) [] := by
      cases inside <;> rfl
    rw [side,Frontiers.states,List.getD_eq_getElem?_getD,List.getElem?_replicate]
    split <;> rfl
  rw [SparseTables.Held,none]
  exact List.not_mem_nil

private theorem sparseRow_moves (pass : SparsePass) (row : ℕ × ℤ) : sparseRow maxIntervals target pass row =
    ⟨((rowMoves maxIntervals target row.2 (row.1 - pass.previousPosition) pass.tables).foldl
      SparseTables.put (emptyTables maxIntervals)).prune,row.1⟩ := by
  have counts : sparseCount maxIntervals target row.2 (row.1 - pass.previousPosition) pass.tables =
      fun next count => (countMoves maxIntervals target row.2 (row.1 - pass.previousPosition) pass.tables
        count).foldl SparseTables.put next := by
    funext next count
    exact sparseCount_moves _ _ _
  rw [sparseRow,rowMoves,List.foldl_flatMap,counts]
  rfl

/-- The dictionaries have their shape, and an open interval ends at the previous row. -/
structure SparseState (maxIntervals bound : ℕ) (pass : SparsePass) : Prop where
  shaped : pass.tables.Shaped maxIntervals
  previous : ∀ entry, pass.tables.Held entry → entry.inside = true → pass.previousPosition + 1 = bound

theorem SparseTables.Shaped.intervals (shaped : tables.Shaped maxIntervals) {entry : Entry}
    (held : tables.Held entry) : entry.intervals ≤ maxIntervals := by
  by_contra more
  have short := shaped entry.inside
  rw [SparseTables.Held,Frontiers.states,List.getD_eq_getElem?_getD,
    List.getElem?_eq_none (by omega)] at held
  exact absurd held List.not_mem_nil

private theorem sparseRow_correct {weight : ℕ → ℤ} {bound row : ℕ} {pass : SparsePass} (positive : 0 ≤ target)
    (nonnegative : ∀ row, 0 ≤ weight row) (state : SparseState maxIntervals bound pass)
    (correct : Correct weight target maxIntervals bound pass.tables.Held) (later : bound ≤ row)
    (skipped : ∀ between, bound ≤ between → between < row → weight between = 0) :
    SparseState maxIntervals (row + 1) (sparseRow maxIntervals target pass (row,weight row)) ∧
    Correct weight target maxIntervals (row + 1)
      (sparseRow maxIntervals target pass (row,weight row)).tables.Held := by
  rw [sparseRow_moves]
  have same : ∀ old, pass.tables.Held old → old.inside = true →
      row - pass.previousPosition = row + 1 - bound := by
    intro old held inside
    have place := state.previous old held inside
    omega
  have kept : ∀ entry ∈ rowMoves maxIntervals target (weight row) (row - pass.previousPosition) pass.tables,
      entry.intervals ≤ maxIntervals ∧ 0 ≤ entry.weight := by
    intro entry member
    obtain ⟨old,held,few,move⟩ := (mem_rowMoves _ _).mp member
    exact ⟨move.intervals_le few,
      move.nonnegative positive (nonnegative row) (correct.sound old held).1⟩
  obtain ⟨shaped,sound,complete⟩ := SparseTables.foldl_put _ (emptyTables_shaped maxIntervals) kept
  have written : ∀ entry, ((rowMoves maxIntervals target (weight row) (row - pass.previousPosition)
      pass.tables).foldl SparseTables.put (emptyTables maxIntervals)).Held entry → entry ∈ rowMoves
        maxIntervals target (weight row) (row - pass.previousPosition) pass.tables :=
    fun entry held => (sound entry held).resolve_left (emptyTables_empty _ _)
  refine ⟨⟨?_,fun _ _ _ => rfl⟩,correct.step positive nonnegative later skipped ?_ ?_⟩
  · intro inside
    rw [SparseTables.side_prune,List.length_map,shaped inside]
  · intro entry held
    obtain ⟨old,was,_,move⟩ := (mem_rowMoves _ _).mp (written entry (SparseTables.held_prune held))
    exact ⟨old,was,move.of_distance (same old was)⟩
  · intro old entry was _ _ move _
    have member : entry ∈ rowMoves maxIntervals target (weight row) (row - pass.previousPosition) pass.tables :=
      (mem_rowMoves _ _).mpr ⟨old,was,state.shaped.intervals was,
        move.of_distance fun inside => (same old was inside).symm⟩
    have served := complete entry (kept entry member).2 (Or.inr member)
    exact SparseTables.served_prune served fun entry held => (kept entry (written entry held)).2

private theorem sparseStart_held (maxIntervals position : ℕ) (entry : Entry) :
    (sparseStart maxIntervals position).tables.Held entry ↔ entry = ⟨false,0,0,0⟩ := by
  obtain ⟨inside,intervals,selected,weight⟩ := entry
  cases inside with
  | true =>
    have empty : (sparseStart maxIntervals position).tables.side true =
        (emptyTables maxIntervals).side true := rfl
    refine ⟨fun held => absurd held ?_,fun same => by cases same⟩
    rw [SparseTables.Held,empty]
    exact emptyTables_empty maxIntervals ⟨true,intervals,selected,weight⟩
  | false =>
    have first : ((sparseStart maxIntervals position).tables.side false) =
        [(0,0)] :: List.replicate maxIntervals [] := rfl
    rw [SparseTables.Held,first]
    cases intervals with
    | zero => simp [Frontiers.states]
    | succ intervals =>
      simp only [Frontiers.states,List.getD_eq_getElem?_getD,List.getElem?_cons_succ,List.getElem?_replicate]
      split <;> simp

/-- The next positive row may be any row behind. -/
def FollowsAny (rowCount bound row : ℕ) : Prop := bound ≤ row ∧ row < rowCount

theorem sparse_pass {weight : ℕ → ℤ} {rowCount : ℕ} (maxIntervals : ℕ) (positive : 0 ≤ target)
    (nonnegative : ∀ row, 0 ≤ weight row) (rows : List (ℕ × ℤ))
    (scan : Scan weight (FollowsAny rowCount) 0 rows) (position : ℕ) :
    ∃ final ≤ rowCount, (∀ row, final ≤ row → weight row = 0) ∧
      SparseState maxIntervals final
        (rows.foldl (sparseRow maxIntervals target) (sparseStart maxIntervals position)) ∧
      Correct weight target maxIntervals final
        (rows.foldl (sparseRow maxIntervals target) (sparseStart maxIntervals position)).tables.Held := by
  have start : SparseState maxIntervals 0 (sparseStart maxIntervals position) := by
    refine ⟨?_,?_⟩
    · intro inside
      cases inside
      · exact (List.length_modify _ _ _).trans List.length_replicate
      · exact List.length_replicate
    · intro entry held inside
      rw [(sparseStart_held _ _ _).mp held] at inside
      cases inside
  exact scan_correct (sparseRow maxIntervals target) (fun pass => pass.tables.Held)
    (SparseState maxIntervals) (fun _ _ next => next.2)
    (fun _ _ _ state correct next skipped =>
      sparseRow_correct positive nonnegative state correct next.1 skipped)
    rows _ scan (Nat.zero_le _) start (Correct.initial (sparseStart_held _ _))

end DynamicCssc.Span80
